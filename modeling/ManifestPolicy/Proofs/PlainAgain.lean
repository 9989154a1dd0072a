import ManifestPolicy.Proofs.NoExpressionLeft
import ManifestPolicy.Proofs.TemplatePieces

/-!
# Making a template plain again

A template that has been made plain holds no expression on any of its lines.
All the same something may happen to it when it is made plain once more. Known
values and inclusions are recognised across lines too, when line feeds are
among their blanks, and the last pass may bring such an expression about by
what it takes out, when their own passes are over.

This is the only way in which it can happen (`sanitize_again`). A pass takes
opening braces out of the text wherever its pattern matches, and puts none in;
so several passes leave a text as it is exactly if none of their patterns
matches anywhere in it (`Pass.run_eq_self_iff`). What a pattern matches is
told by the body of an expression (`Pattern.Finds`). A text that is a single
line stays one, so there it cannot happen.
-/

namespace ManifestPolicy.Template

open Text

variable {p : Pattern} {by_ cs rest : List Char}

/-! ## What patterns find -/

/-- The pattern finds the expressions whose bodies fit, and nothing else. -/
structure Pattern.Finds (p : Pattern) (fits : List Char → Prop) : Prop where
  sound ⦃cs rest : List Char⦄ : p cs = some rest →
    ∃ body, fits body ∧ cs = openBraces ++ (body ++ closeBraces ++ rest)
  complete ⦃body : List Char⦄ : fits body → ∀ rest,
    ∃ after, p (openBraces ++ (body ++ closeBraces ++ rest)) = some after

/-- The pattern matches nowhere in the text. -/
def Pattern.Misses (p : Pattern) (cs : List Char) : Prop := ∀ after, after <:+ cs → p after = none

/-- An expression with this body stands in the text. -/
def Stands (body cs : List Char) : Prop := (Piece.expression body).chars <:+: cs

theorem stands_iff {body : List Char} :
    Stands body cs ↔ ∃ rest, openBraces ++ (body ++ closeBraces ++ rest) <:+ cs := by
  constructor
  · rintro ⟨front, rest, rfl⟩
    exact ⟨rest, front, by simp [Piece.chars]⟩
  · rintro ⟨rest, front, rfl⟩
    exact ⟨front, rest, by simp [Piece.chars]⟩

theorem Pattern.Finds.misses_iff {fits : List Char → Prop} (hp : p.Finds fits) :
    p.Misses cs ↔ ∀ body, Stands body cs → ¬ fits body := by
  constructor
  · intro h body hstands hfits
    obtain ⟨rest, hrest⟩ := stands_iff.1 hstands
    obtain ⟨after, hafter⟩ := hp.complete hfits rest
    rw [h _ hrest] at hafter
    cases hafter
  · intro h after hafter
    refine Option.eq_none_iff_forall_ne_some.2 fun rest hm => ?_
    obtain ⟨body, hfits, rfl⟩ := hp.sound hm
    exact h body (stands_iff.2 ⟨rest, hafter⟩) hfits

theorem exists_of_throughClose (h : throughClose cs = some rest) :
    ∃ body, '\n' ∉ body ∧ cs = body ++ closeBraces ++ rest := by
  induction cs using throughClose.induct with
  | case1 => cases h
  | case2 after =>
      rw [throughClose] at h
      injection h with h
      exact ⟨[], List.not_mem_nil, by rw [← h]; rfl⟩
  | case3 cs hne =>
      rw [throughClose, if_pos rfl] at h
      · cases h
      · exact hne
  | case4 c cs hne hc ih =>
      rw [throughClose, if_neg hc] at h
      · obtain ⟨body, hbody, rfl⟩ := ih h
        exact ⟨c :: body, by simp [hbody, Ne.symm hc], rfl⟩
      · exact hne

theorem exists_throughClose {body : List Char} (h : '\n' ∉ body) (rest : List Char) :
    ∃ after, throughClose (body ++ closeBraces ++ rest) = some after := by
  rw [← Option.ne_none_iff_exists']
  exact fun hnone => h (throughClose_eq_none_iff.1 hnone body rest rfl)

theorem finds_expression : expressionPattern.Finds ('\n' ∉ ·) where
  sound cs rest h := by
    obtain ⟨after, rfl⟩ := opening_expression h
    rw [expressionPattern_open] at h
    obtain ⟨body, hbody, rfl⟩ := exists_of_throughClose h
    exact ⟨body, hbody, rfl⟩
  complete body h rest := by
    rw [expressionPattern_open]
    exact exists_throughClose h rest

theorem finds_value (key : List Char) : (valuePattern key).Finds (NamesValue key) where
  sound cs rest h := by
    obtain ⟨after, rfl⟩ := opening_value key h
    obtain ⟨before, behind, rfl, hbefore, hbehind⟩ := valuePattern_open.1 h
    exact ⟨_, ⟨before, behind, rfl, hbefore, hbehind⟩, rfl⟩
  complete body h rest := by
    obtain ⟨before, behind, rfl, hbefore, hbehind⟩ := h
    exact ⟨rest, valuePattern_open.2 ⟨before, behind, rfl, hbefore, hbehind⟩⟩

/-- What stands behind the quote that opens the name in an inclusion, if it is
one: a name on the same line, its closing quote, blanks, and anything on the
line then reached. -/
def EndsInclusion (cs : List Char) : Prop :=
  ∃ name blanks more, cs = name ++ '"' :: (blanks ++ more) ∧ '\n' ∉ name ∧
    blanks.all isBlank = true ∧ '\n' ∉ more

/-- What stands between the braces is an inclusion. -/
def NamesInclusion (body : List Char) : Prop := ∃ rest, Including body rest ∧ EndsInclusion rest

theorem exists_of_throughName (h : throughName cs = some rest) :
    ∃ body, EndsInclusion body ∧ cs = body ++ closeBraces ++ rest := by
  induction cs with
  | nil => cases h
  | cons c cs ih =>
      -- A quote that nothing closes belongs to the name.
      have later (hc : c ≠ '\n') (h : throughName cs = some rest) :
          ∃ body, EndsInclusion body ∧ c :: cs = body ++ closeBraces ++ rest := by
        obtain ⟨body, ⟨name, blanks, more, rfl, hname, hblanks, hmore⟩, rfl⟩ := ih h
        exact ⟨_, ⟨c :: name, blanks, more, rfl, by simp [hname, Ne.symm hc], hblanks, hmore⟩, rfl⟩
      rw [throughName] at h
      split at h
      · cases h
      · next hc =>
          split at h
          · next hquote =>
              split at h
              · next after hafter =>
                  obtain ⟨more, hmore, hcs⟩ := exists_of_throughClose hafter
                  injection h with h
                  have hblanks : cs = cs.takeWhile isBlank ++ dropBlank cs :=
                    List.takeWhile_append_dropWhile.symm
                  refine ⟨'"' :: (cs.takeWhile isBlank ++ more), ⟨[], _, more, rfl,
                    List.not_mem_nil, List.all_takeWhile, hmore⟩, ?_⟩
                  rw [hcs, h] at hblanks
                  rw [hquote]
                  simpa using hblanks
              · exact later hc h
          · exact later hc h

theorem exists_throughName {body : List Char} (h : EndsInclusion body) (rest : List Char) :
    ∃ after, throughName (body ++ closeBraces ++ rest) = some after := by
  obtain ⟨name, blanks, more, rfl, hname, hblanks, hmore⟩ := h
  induction name with
  | nil =>
      have hdrop : dropBlank (blanks ++ more ++ closeBraces ++ rest) =
          dropBlank more ++ closeBraces ++ rest := by
        rw [List.append_assoc, List.append_assoc, dropBlank_append hblanks,
          ← List.append_assoc, dropBlank_close]
      have hline : '\n' ∉ dropBlank more := fun hmem =>
        hmore ((List.dropWhile_sublist isBlank).subset hmem)
      obtain ⟨after, hafter⟩ := exists_throughClose hline rest
      refine ⟨after, ?_⟩
      rw [List.nil_append, List.cons_append, List.cons_append, throughName,
        if_neg (by decide), if_pos rfl, hdrop, hafter]
  | cons c name ih =>
      rw [List.mem_cons, not_or] at hname
      obtain ⟨after, hafter⟩ := ih hname.2
      rw [List.cons_append, List.cons_append, List.cons_append, throughName,
        if_neg (Ne.symm hname.1)]
      split
      · split
        · exact ⟨_, rfl⟩
        · exact ⟨after, hafter⟩
      · exact ⟨after, hafter⟩

theorem finds_include : includePattern.Finds NamesInclusion where
  sound cs rest h := by
    obtain ⟨after, rfl⟩ := opening_include h
    obtain ⟨name, hname, hrest⟩ := includePattern_open.1 h
    obtain ⟨body, hbody, rfl⟩ := exists_of_throughName hrest
    obtain ⟨before, between, rfl, hbefore, hbetween⟩ := hname
    exact ⟨_, ⟨body, ⟨before, between, rfl, hbefore, hbetween⟩, hbody⟩, by simp⟩
  complete body h rest := by
    obtain ⟨name, hname, hends⟩ := h
    obtain ⟨after, hafter⟩ := exists_throughName hends rest
    refine ⟨after, includePattern_open.2 ⟨name ++ closeBraces ++ rest, ?_, hafter⟩⟩
    rw [List.append_assoc, List.append_assoc]
    exact hname.append _

/-! ## Passes that change nothing -/

theorem replace_of_misses (h : p.Misses cs) : replace p by_ cs = cs := by
  induction cs with
  | nil => rfl
  | cons c cs ih =>
      rw [replace_of_none (h _ List.suffix_rfl),
        ih fun after hafter => h after (hafter.trans (List.suffix_cons c cs))]

/-- What stands behind a pass has been in the text, or has been put in. -/
theorem mem_replace {c : Char} (h : c ∈ replace p by_ cs) : c ∈ by_ ∨ c ∈ cs := by
  unfold replace at h
  generalize 0 = n at h
  fun_induction replaceFrom p by_ n cs with
  | case1 => cases h
  | case2 n d cs ih => exact (ih h).imp_right (List.mem_cons_of_mem d)
  | case3 d cs rest hm ih =>
      rcases List.mem_append.1 h with h | h
      · exact .inl h
      · exact (ih h).imp_right (List.mem_cons_of_mem d)
  | case4 d cs hm ih =>
      rcases List.mem_cons.1 h with rfl | h
      · exact .inr List.mem_cons_self
      · exact (ih h).imp_right (List.mem_cons_of_mem d)

/-- The pattern matches nowhere, or there are fewer opening braces behind the
pass. -/
theorem misses_or_count_replace_lt {fits : List Char → Prop} (hp : p.Finds fits)
    (hby : '\x7b' ∉ by_) : ∀ cs : List Char,
    p.Misses cs ∨ (replace p by_ cs).count '\x7b' < cs.count '\x7b'
  | [] => by
      refine .inl fun after hafter => ?_
      rw [List.suffix_nil.1 hafter]
      refine Option.eq_none_iff_forall_ne_some.2 fun rest hm => ?_
      obtain ⟨body, _, hbody⟩ := hp.sound hm
      cases hbody
  | c :: cs => by
      cases hm : p (c :: cs) with
      | some rest =>
          obtain ⟨body, _, hbody⟩ := hp.sound hm
          have hcs : cs = '\x7b' :: (body ++ closeBraces ++ rest) := (List.cons.inj hbody).2
          have hrest : rest <:+ cs := ⟨'\x7b' :: (body ++ closeBraces), by rw [hcs]; rfl⟩
          have hlt : rest.length < (c :: cs).length := Nat.lt_succ_of_le hrest.length_le
          have hle : (replace p by_ rest).count '\x7b' ≤ rest.count '\x7b' := by
            rcases misses_or_count_replace_lt hp hby rest with h | h
            · rw [replace_of_misses h]
            · exact h.le
          refine .inr ?_
          rw [replace_of_some hm hrest, List.count_append, List.count_eq_zero.2 hby, hbody]
          simp only [openBraces, List.cons_append, List.nil_append, List.count_cons_self,
            List.count_append]
          omega
      | none =>
          rcases misses_or_count_replace_lt hp hby cs with hmisses | hlt
          · refine .inl fun after hafter => ?_
            rcases List.suffix_cons_iff.1 hafter with rfl | hafter
            · exact hm
            · exact hmisses after hafter
          · refine .inr ?_
            rw [replace_of_none hm, List.count_cons, List.count_cons]
            omega
termination_by cs => cs.length

/-- A pass: a pattern, and the text that takes the places of its matches. -/
structure Pass where
  pattern : Pattern
  text : List Char

namespace Pass

/-- What the passes make of a text, one after the other. -/
def run (passes : List Pass) (cs : List Char) : List Char :=
  passes.foldl (fun cs pass => replace pass.pattern pass.text cs) cs

/-- The pattern finds expressions, and no opening brace is put in. -/
structure OpensNothing (pass : Pass) : Prop where
  finds : ∃ fits, pass.pattern.Finds fits
  text : '\x7b' ∉ pass.text

theorem run_cons (pass : Pass) (passes : List Pass) (cs : List Char) :
    run (pass :: passes) cs = run passes (replace pass.pattern pass.text cs) := rfl

theorem mem_run {passes : List Pass} {c : Char} (h : c ∈ run passes cs) :
    (∃ pass ∈ passes, c ∈ pass.text) ∨ c ∈ cs := by
  induction passes generalizing cs with
  | nil => exact .inr h
  | cons pass passes ih =>
      rcases ih h with ⟨pass', hpass', hc⟩ | hc
      · exact .inl ⟨pass', List.mem_cons_of_mem _ hpass', hc⟩
      · exact (mem_replace hc).imp_left fun hc => ⟨pass, List.mem_cons_self, hc⟩

theorem count_run_le {passes : List Pass} (h : ∀ pass ∈ passes, pass.OpensNothing)
    (cs : List Char) : (run passes cs).count '\x7b' ≤ cs.count '\x7b' := by
  induction passes generalizing cs with
  | nil => exact Nat.le_refl _
  | cons pass passes ih =>
      rw [List.forall_mem_cons] at h
      obtain ⟨fits, hfinds⟩ := h.1.finds
      rw [run_cons]
      refine (ih h.2 _).trans ?_
      rcases misses_or_count_replace_lt hfinds h.1.text cs with hmisses | hlt
      · rw [replace_of_misses hmisses]
      · exact hlt.le

/-- Passes leave a text as it is exactly if none of their patterns matches. -/
theorem run_eq_self_iff {passes : List Pass} (h : ∀ pass ∈ passes, pass.OpensNothing) :
    run passes cs = cs ↔ ∀ pass ∈ passes, pass.pattern.Misses cs := by
  induction passes with
  | nil => exact iff_of_true rfl fun _ h => absurd h List.not_mem_nil
  | cons pass passes ih =>
      rw [List.forall_mem_cons] at h ⊢
      obtain ⟨fits, hfinds⟩ := h.1.finds
      rw [run_cons]
      rcases misses_or_count_replace_lt hfinds h.1.text cs with hmisses | hlt
      · rw [replace_of_misses hmisses, ih h.2, and_iff_right hmisses]
      · refine iff_of_false (fun hrun => ?_) fun hall => ?_
        · have hle := count_run_le h.2 (replace pass.pattern pass.text cs)
          rw [hrun] at hle
          omega
        · rw [replace_of_misses hall.1] at hlt
          exact Nat.lt_irrefl _ hlt

end Pass

/-! ## Making a template plain again -/

/-- The passes that make a template plain. -/
def passes (s : SanitizerSettings) : List Pass :=
  s.placeholders.map (fun known => ⟨valuePattern known.1.toList, known.2.toList⟩) ++
    [⟨includePattern, s.includePlaceholder.toList⟩, ⟨expressionPattern, []⟩]

theorem sanitizeChars_eq_run (s : SanitizerSettings) (cs : List Char) :
    sanitizeChars s cs = Pass.run (passes s) cs := by
  rw [Pass.run, passes, List.foldl_append, List.foldl_map]
  rfl

/-- What stands between the braces is a known value or an inclusion. -/
def Known (s : SanitizerSettings) (body : List Char) : Prop :=
  (∃ known ∈ s.placeholders, NamesValue known.1.toList body) ∨ NamesInclusion body

/-- The texts that take the places of expressions open none. -/
structure OpensNothing (s : SanitizerSettings) : Prop where
  values : ∀ known ∈ s.placeholders, '\x7b' ∉ known.2.toList
  inclusion : '\x7b' ∉ s.includePlaceholder.toList

theorem forall_mem_passes {s : SanitizerSettings} {q : Pass → Prop} :
    (∀ pass ∈ passes s, q pass) ↔
      (∀ known ∈ s.placeholders, q ⟨valuePattern known.1.toList, known.2.toList⟩) ∧
        q ⟨includePattern, s.includePlaceholder.toList⟩ ∧ q ⟨expressionPattern, []⟩ := by
  rw [passes, List.forall_mem_append, List.forall_mem_map, List.forall_mem_cons,
    List.forall_mem_singleton]

/-- A text is plain already exactly if each expression in it runs over several
lines, and is neither a known value nor an inclusion. -/
theorem sanitizeChars_eq_self_iff {s : SanitizerSettings} (hs : OpensNothing s) :
    sanitizeChars s cs = cs ↔ ∀ body, Stands body cs → '\n' ∈ body ∧ ¬ Known s body := by
  have hpasses : ∀ pass ∈ passes s, pass.OpensNothing :=
    forall_mem_passes.2 ⟨fun known hknown => ⟨⟨_, finds_value _⟩, hs.values known hknown⟩,
      ⟨⟨_, finds_include⟩, hs.inclusion⟩, ⟨⟨_, finds_expression⟩, List.not_mem_nil⟩⟩
  rw [sanitizeChars_eq_run, Pass.run_eq_self_iff hpasses, forall_mem_passes,
    finds_include.misses_iff, finds_expression.misses_iff]
  simp only [(finds_value _).misses_iff, Known]
  grind

theorem newline_mem_of_stands (s : SanitizerSettings) (cs : List Char) {body : List Char}
    (h : Stands body (sanitizeChars s cs)) : '\n' ∈ body :=
  Decidable.of_not_not <| finds_expression.misses_iff.1 (expressionPattern_replace _) body h

/-- By the usual settings no text that is a single line becomes several. -/
theorem newline_not_mem_sanitizeChars (h : '\n' ∉ cs) : '\n' ∉ sanitizeChars {} cs := by
  have htexts : ∀ pass ∈ passes {}, '\n' ∉ pass.text := forall_mem_passes.2 (by decide)
  rw [sanitizeChars_eq_run]
  intro hrun
  rcases Pass.mem_run hrun with ⟨pass, hpass, hc⟩ | hc
  · exact htexts pass hpass hc
  · exact h hc

/-- Making a template plain once more, by the usual settings, changes nothing if and only if no
known value and no inclusion stands in the plain template. Of the expressions that stand there
each runs over several lines, so that nothing changes for a template that is a single line. -/
theorem sanitize_again (text : String) :
    (sanitize {} (sanitize {} text) = sanitize {} text ↔
      ∀ body, Stands body (sanitize {} text).toList → ¬ Known {} body) ∧
    (∀ body, Stands body (sanitize {} text).toList → '\n' ∈ body) ∧
    ('\n' ∉ text.toList → sanitize {} (sanitize {} text) = sanitize {} text) := by
  have hlines : ∀ body, Stands body (sanitize {} text).toList → '\n' ∈ body := by
    rw [sanitize, String.toList_ofList]
    exact fun body => newline_mem_of_stands {} text.toList
  have hagain : sanitize {} (sanitize {} text) = sanitize {} text ↔
      ∀ body, Stands body (sanitize {} text).toList → ¬ Known {} body := by
    have hsettings : OpensNothing {} := ⟨by decide, by decide⟩
    rw [sanitize, ← String.toList_inj, String.toList_ofList, sanitizeChars_eq_self_iff hsettings]
    exact forall_congr' fun body => imp_congr_right fun h => and_iff_right (hlines body h)
  refine ⟨hagain, hlines, fun hline => hagain.2 fun body hstands => ?_⟩
  have hmem : '\n' ∈ (sanitize {} text).toList :=
    hstands.subset <| List.mem_append_left _ <| List.mem_append_right _ (hlines body hstands)
  rw [sanitize, String.toList_ofList] at hmem
  exact absurd hmem (newline_not_mem_sanitizeChars hline)

/-- An expression that runs over two lines stays. -/
theorem sanitize_again_two_lines :
    let text := "a: \x7b\x7b .Values.x\nb: \x7d\x7d"
    sanitize {} text = text ∧ Stands " .Values.x\nb: ".toList text.toList ∧
      ∀ body, Stands body text.toList → ¬ Known {} body := by
  intro text
  have htext : sanitize {} text = text := by decide +kernel
  have hagain := (sanitize_again text).1
  rw [htext] at hagain
  exact ⟨htext, ⟨"a: ".toList, [], by decide +kernel⟩, hagain.1 htext⟩

/-- The last pass takes an expression out of the middle of a known value that is written across
lines. -/
theorem known_value_comes_together :
    let text := "\x7b\x7b\n.Values.config.\x7b\x7bx\x7d\x7ddependencyScanner\n\x7d\x7d"
    sanitize {} text = "\x7b\x7b\n.Values.config.dependencyScanner\n\x7d\x7d" ∧
      sanitize {} (sanitize {} text) = "default-dependency-scanner" ∧
      sanitize {} (sanitize {} text) ≠ sanitize {} text := by
  decide +kernel

end ManifestPolicy.Template
