import ManifestPolicy.Console.Echo

/-!
# What is shown of an echoed text

An echoed text is shown without the sequences in it that would steer a
terminal. So it either begins with such a sequence, which is left out, or with
a character that is shown (`shownInduction`), and the induction is on that and
not on the characters: a sequence is one step. A text without an escape
character is shown whole (`shown_of_not_mem`). Sequences are plain characters
otherwise, and so what is shown can be encoded exactly if the text can
(`firstHalves?_shown`).

What is shown may look like a sequence again, for what stood around one comes
together.
-/

namespace ManifestPolicy

namespace Text.Utf8

variable {c : Char} {cs : List Char}

theorem firstHalves?_eq_none : firstHalves? cs = none ↔ ∀ c ∈ cs, isHalf c = false := by
  have hdrop : cs.dropWhile (fun c => !isHalf c) = [] ↔ ∀ c ∈ cs, isHalf c = false := by
    induction cs with
    | nil => simp
    | cons c cs ih => cases hc : isHalf c <;> simp [hc, ih]
  rw [← hdrop, firstHalves?]
  cases cs.dropWhile fun c => !isHalf c <;> simp

theorem isHalf_of_ascii (h : c.toNat < 128) : isHalf c = false := by
  rw [isHalf, Bool.and_eq_false_iff, decide_eq_false_iff_not]
  exact .inl (by rw [halfShift]; omega)

end Text.Utf8

namespace Echo

open Text.Utf8

variable {c : Char} {cs sequence : List Char}

theorem ascii_of_isParameter (h : isParameter c = true) : c.toNat < 128 := by
  simp only [isParameter, Bool.or_eq_true, Bool.and_eq_true, beq_iff_eq, decide_eq_true_eq] at h
  rcases h with (rfl | rfl) | ⟨_, h⟩
  · decide
  · decide
  · exact Nat.lt_of_le_of_lt (show c.toNat ≤ 57 from h) (by decide)

theorem ascii_of_isFinal (h : isFinal c = true) : c.toNat < 128 := by
  simp only [isFinal, Bool.or_eq_true, Bool.and_eq_true, decide_eq_true_eq] at h
  rcases h with ⟨_, h⟩ | ⟨_, h⟩
  · exact Nat.lt_of_le_of_lt (show c.toNat ≤ 122 from h) (by decide)
  · exact Nat.lt_of_le_of_lt (show c.toNat ≤ 90 from h) (by decide)

/-- A sequence stands at the front, begins with an escape character, and is plain otherwise. -/
theorem of_sequence?_eq_some (h : sequence? cs = some sequence) :
    (∃ rest, cs = sequence ++ rest) ∧ (∃ more, sequence = '\x1b' :: more) ∧
      ∀ c ∈ sequence, c.toNat < 128 := by
  unfold sequence? at h
  split at h
  · next cs =>
      have hsplit := List.takeWhile_append_dropWhile (p := isParameter) (l := cs)
      split at h
      · next c rest hdrop =>
          obtain ⟨hfinal, h⟩ := Option.ite_none_right_eq_some.1 h
          cases h
          refine ⟨⟨rest, ?_⟩, ⟨_, rfl⟩, ?_⟩
          · rw [hdrop] at hsplit
            simpa using hsplit.symm
          · intro d hd
            simp only [List.cons_append, List.mem_cons, List.mem_append, List.not_mem_nil,
              or_false] at hd
            rcases hd with rfl | rfl | hd | rfl
            · decide
            · decide
            · exact ascii_of_isParameter (List.all_eq_true.1 List.all_takeWhile d hd)
            · exact ascii_of_isFinal hfinal
      · cases h
  · cases h

theorem shownFrom_eq (n : Nat) (cs : List Char) : shownFrom n cs = shown (cs.drop n) := by
  induction n generalizing cs with
  | zero => rfl
  | succ n ih =>
      cases cs with
      | nil => rfl
      | cons c cs => exact ih cs

theorem shown_of_none (h : sequence? (c :: cs) = none) : shown (c :: cs) = c :: shown cs := by
  rw [shown, shownFrom, h, ← shown]

theorem shown_append {rest : List Char} (h : sequence? (sequence ++ rest) = some sequence) :
    shown (sequence ++ rest) = shown rest := by
  obtain ⟨_, ⟨more, rfl⟩, _⟩ := of_sequence?_eq_some h
  rw [List.cons_append] at h ⊢
  rw [shown, shownFrom, h]
  dsimp only
  rw [shownFrom_eq, List.length_cons, Nat.add_sub_cancel, List.drop_left]

/-- A text begins with a sequence, or with a character that is shown. -/
theorem shownInduction {motive : List Char → Prop} (nil : motive [])
    (shows : ∀ c cs, sequence? (c :: cs) = none → motive cs → motive (c :: cs))
    (steers : ∀ sequence rest, sequence? (sequence ++ rest) = some sequence → motive rest →
      motive (sequence ++ rest))
    (cs : List Char) : motive cs := by
  match cs with
  | [] => exact nil
  | c :: cs =>
      cases hsequence : sequence? (c :: cs) with
      | none => exact shows c cs hsequence (shownInduction nil shows steers cs)
      | some sequence =>
          obtain ⟨⟨rest, hrest⟩, ⟨more, hmore⟩, _⟩ := of_sequence?_eq_some hsequence
          have hlt : rest.length < (c :: cs).length := by
            rw [hrest, hmore, List.cons_append, List.length_cons, List.length_append]
            omega
          rw [hrest] at hsequence ⊢
          exact steers sequence rest hsequence (shownInduction nil shows steers rest)
termination_by cs.length
decreasing_by
  · exact Nat.lt_succ_self _
  · exact hlt

/-- A text without an escape character is shown as it is. -/
theorem shown_of_not_mem (h : '\x1b' ∉ cs) : shown cs = cs := by
  induction cs using shownInduction with
  | nil => rfl
  | shows c cs hnone ih => rw [shown_of_none hnone, ih fun hmem => h (List.mem_cons_of_mem c hmem)]
  | steers sequence rest hsequence _ =>
      obtain ⟨_, ⟨more, rfl⟩, _⟩ := of_sequence?_eq_some hsequence
      exact absurd List.mem_cons_self h

/-- What the screen refuses to show it refuses in the text itself. -/
theorem firstHalves?_shown : firstHalves? (shown cs) = none ↔ firstHalves? cs = none := by
  rw [firstHalves?_eq_none, firstHalves?_eq_none]
  induction cs using shownInduction with
  | nil => rfl
  | shows c cs hnone ih =>
      rw [shown_of_none hnone, List.forall_mem_cons, List.forall_mem_cons, ih]
  | steers sequence rest hsequence ih =>
      have hplain : ∀ c ∈ sequence, isHalf c = false := fun c hc =>
        isHalf_of_ascii ((of_sequence?_eq_some hsequence).2.2 c hc)
      rw [shown_append hsequence, List.forall_mem_append, ih]
      exact ⟨fun h => ⟨hplain, h⟩, fun h => h.2⟩

end Echo

end ManifestPolicy
