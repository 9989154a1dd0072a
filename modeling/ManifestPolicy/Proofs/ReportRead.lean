import ManifestPolicy.Proofs.JsonWriting
import ManifestPolicy.Proofs.PathText
import ManifestPolicy.Validation.Report

/-!
# The report in JSON is read as the result

A result goes through three texts before it is read: the ASCII text that is
handed to the screen, the value that the screen takes from it, and the indented
text that it prints of that. Written values are read again, so the value in the
middle is the result (`Reporter.json_eq`). What could still disturb the last
text is the printing: characters that are dropped, tabs that are expanded,
lines that are broken. In the indented style no such character is left, and
lines of JSON are not broken, whatever the width of the screen.

The other notices show nothing where reports are JSON, so that the report is
all there is (`Reporter.print_read`).
-/

namespace ManifestPolicy

/-! ## Printing what is clear -/

/-- Without tabs a text stays as it is. -/
theorem Layout.expandTabs_of_not_mem {cs : List Char} (h : '\t' ∉ cs) (at_ : Nat) :
    expandTabs at_ cs = cs := by
  induction cs generalizing at_ with
  | nil => rfl
  | cons c cs ih =>
      rw [List.mem_cons, not_or] at h
      rw [expandTabs, if_neg (Ne.symm h.1), ih h.2]

/-- The lines of a text with their ends are the text and one more end. -/
theorem Piece.ofLines_splitAt (cs : List Char) :
    ofLines (Text.splitAt '\n' cs) = cs ++ ['\n'] := by
  induction cs with
  | nil => rfl
  | cons c cs ih =>
      rw [Text.splitAt]
      split
      · next hc =>
          rw [ofLines, List.flatMap_cons, ← ofLines, ih, hc]
          rfl
      · split
        · next line lines hlines =>
            rw [hlines, ofLines, List.flatMap_cons] at ih
            rw [ofLines, List.flatMap_cons, List.cons_append, List.cons_append, ih]
            rfl
        · next hnone => exact absurd hnone (Text.splitAt_ne_nil _ _)

section

variable {cs : List Char} (h : Json.Clear cs)
include h

theorem Json.Clear.ofLines_unwrapped : Piece.ofLines (Layout.unwrapped cs) = cs ++ ['\n'] := by
  have htabs : ∀ line ∈ Text.splitAt '\n' cs, Layout.expandTabs 0 line = id line := by
    refine fun line hline => Layout.expandTabs_of_not_mem (fun htab => ?_) 0
    have hmem := (Text.infix_of_mem_splitAt hline).subset htab
    rcases h _ hmem with hc | hc <;> revert hc <;> decide
  rw [Layout.unwrapped, List.map_congr_left htabs, List.map_id]
  exact Piece.ofLines_splitAt cs

theorem Json.Clear.filter_isDropped : (cs.filter fun c => !Markup.isDropped c) = cs := by
  refine List.filter_eq_self.2 fun c hc => ?_
  have hdropped : ∀ d, Markup.isDropped d = true → d ≠ '\n' ∧ d.toNat < 0x20 := by
    intro d hd
    simp only [Markup.isDropped, Bool.or_eq_true, beq_iff_eq] at hd
    rcases hd with (((rfl | rfl) | rfl) | rfl) | rfl <;> decide
  cases hd : Markup.isDropped c with
  | false => rfl
  | true =>
      obtain ⟨hne, hlt⟩ := hdropped c hd
      rcases h c hc with heq | hge
      · exact absurd heq hne
      · omega

end

/-- A JSON text is printed as the indented text of its value. -/
theorem Piece.json_eq {text : String} {v : Json} {cs : List Char} (h : Json.read text = .ok v)
    (hcs : Json.writeIn .indented 0 v = .ok cs) : Piece.json text = .ok (cs ++ ['\n']) := by
  have hclear := Json.clear_writeIn hcs
  simp only [Piece.json, h, Json.pretty, hcs, Except.map, written, String.toList_ofList,
    hclear.filter_isDropped, hclear.ofLines_unwrapped]

/-! ## Results -/

namespace Result

variable {r : Result} {v : Json}

/-- A result that has reasons can be written. -/
theorem writable_toJson (h : r.toJson = .ok v) : v.Writable := by
  obtain ⟨reasons, _, hv⟩ := bind_eq_ok.1 h
  injection hv with hv
  have hcode : Json.Writable (.int r.outcome.exitCode) := by
    intro st depth
    have hshort : (Integer.write? r.outcome.exitCode).isSome := by
      have hsmall : ∀ n ∈ [(0 : Int), 1, 2], (Integer.write? n).isSome := by decide +kernel
      refine hsmall _ ?_
      cases r.outcome <;> simp [Outcome.exitCode]
    obtain ⟨text, htext⟩ := Option.isSome_iff_exists.1 hshort
    exact ⟨text.toList, by
      simp only [Json.writeIn, Json.writeAtom, Integer.write, htext, Except.map]⟩
  have hnull (o : Option String) : Json.Writable (orNull o) := by
    cases o with
    | none => exact fun _ _ => ⟨"null".toList, rfl⟩
    | some s => exact Json.writable_str s
  have hstrs (xs : List String) : Json.Writable (.arr (xs.map .str)) := by
    refine Json.writable_arr fun v hv => ?_
    obtain ⟨s, _, rfl⟩ := List.mem_map.1 hv
    exact Json.writable_str s
  rw [← hv]
  refine Json.writable_obj ?_
  simp only [List.forall_mem_cons, List.not_mem_nil, false_implies, implies_true, and_true,
    Json.writable_str, hcode, hnull, hstrs]

/-- The members of a result have different names, and there is no number with a fraction. -/
theorem portable_toJson (h : r.toJson = .ok v) : v.toValue.Portable := by
  obtain ⟨reasons, _, hv⟩ := bind_eq_ok.1 h
  injection hv with hv
  have hnull (o : Option String) : (orNull o).toValue.Portable := by
    cases o <;> exact trivial
  have hstrs (xs : List String) : Value.PortableItems (Json.toValues (xs.map .str)) := by
    induction xs with
    | nil => exact trivial
    | cons s xs ih => exact ⟨trivial, ih⟩
  rw [← hv, Json.toValue, Value.Portable]
  refine ⟨by simp [Json.toEntries], ?_⟩
  simp [Json.toEntries, Json.toValue, Value.PortableEntries, Value.Portable, hnull, hstrs]

end Result

namespace Reporter

/-- A result that has reasons is shown as the indented text of its value. -/
theorem json_eq {r : Result} {v : Json} (h : r.toJson = .ok v) :
    ∃ cs, Json.writeIn .indented 0 v = .ok cs ∧ json r = .ok (cs ++ ['\n']) := by
  obtain ⟨line, hline⟩ := Result.writable_toJson h .ascii 0
  obtain ⟨cs, hcs⟩ := Result.writable_toJson h .indented 0
  have hread := Json.read_writeIn Json.Style.sound_ascii (Result.portable_toJson h) hline
    Literal.no_space
  rw [List.append_nil] at hread
  refine ⟨cs, hcs, ?_⟩
  simp only [json, h, Json.ascii, hline, Except.map, Piece.written]
  exact Piece.json_eq hread hcs

/-- What is shown as JSON is one JSON text, and it is read as the result: whatever the result
holds, however wide the screen is, and whatever else was given notice of before. -/
theorem print_read (width : Nat) (quiet : Bool) {ns : List Notice}
    (hns : ∀ n ∈ ns, ∀ r, n ≠ .report r) {r : Result} {reasons : List String}
    (hreasons : r.outcome.reasons = .ok reasons) :
    ∃ v text, r.toJson = .ok v ∧
      (⟨.json, width, quiet⟩ : Reporter).print (ns ++ [.report r]) = (text, none) ∧
      (⟨.json, width, quiet⟩ : Reporter).shown (ns ++ [.report r]) = text ∧
      Json.read (String.ofList text) = .ok v := by
  obtain ⟨v, hv⟩ : ∃ v, r.toJson = .ok v := ⟨_, bind_eq_ok.2 ⟨reasons, hreasons, rfl⟩⟩
  obtain ⟨cs, hcs, hjson⟩ := json_eq hv
  have hsilent : ∀ n ∈ ns, (⟨.json, width, quiet⟩ : Reporter).pieces n = [] := by
    intro n hn
    cases n with
    | info text => rfl
    | warning text => rfl
    | report r => exact absurd rfl (hns _ hn r)
  have hreport : (⟨.json, width, quiet⟩ : Reporter).pieces (.report r) = [.ok (cs ++ ['\n'])] := by
    rw [pieces, hjson]
  refine ⟨v, cs ++ ['\n'], hv, ?_, ?_, ?_⟩
  · rw [print, List.flatMap_append, List.flatMap_eq_nil_iff.2 hsilent, List.flatMap_singleton,
      hreport]
    simp [Piece.print]
  · rw [shown, List.flatMap_append, List.flatMap_singleton, hreport]
    rw [List.flatMap_eq_nil_iff.2 fun n hn => by rw [hsilent n hn, Piece.print]]
    simp [Piece.print]
  · exact Json.read_writeIn Json.Style.sound_indented (Result.portable_toJson hv) hcs
      (List.forall_mem_singleton.2 rfl)

theorem print_read_hostile_texts :
    let r : Result :=
      { outcome := .violations "[\"no [/b] \\ud83d\\ude04 \\u2028\"]"
        document := some (.ofString "a[/x].yaml")
        warnings := ["tab\t\x07 \x7f \"quoted\" \\"] }
    ∃ v text, r.toJson = .ok v ∧
      (⟨.json, 1, false⟩ : Reporter).print
        ([.info "[/i]", .warning "two\nlines"] ++ [.report r]) = (text, none) ∧
      (⟨.json, 1, false⟩ : Reporter).shown
        ([.info "[/i]", .warning "two\nlines"] ++ [.report r]) = text ∧
      Json.read (String.ofList text) = .ok v := by
  intro r
  obtain ⟨reasons, hreasons, _⟩ :
      ∃ reasons, r.outcome.reasons = .ok reasons ∧ reasons.length = 1 := by decide +kernel
  exact print_read 1 false (by simp) hreasons

end Reporter

end ManifestPolicy
