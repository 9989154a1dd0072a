import Mathlib.Algebra.Group.Nat.Defs
import ManifestPolicy.Number.Integer

/-!
# The limit on integers as text

An integer has decimal text if it is below the power of ten that the limit on
its digits gives (`exists_write_iff`). The same limit holds for decimal text
that is read, so that every integer that was read can be written
(`natAbs_lt_of_read`).
-/

namespace ManifestPolicy

open Text

theorem length_decimal_le {n k : Nat} (hk : 0 < k) : (toString n).length ≤ k ↔ n < 10 ^ k := by
  rw [Nat.toString_eq_repr, ← String.length_toList, Nat.toList_repr]
  exact Nat.length_toDigits_le_iff (by decide) hk

namespace Integer

theorem exists_write_iff {n : Int} : (∃ s, write n = .ok s) ↔ n.natAbs < 10 ^ digitLimit := by
  rw [← length_decimal_le (by decide)]
  unfold write write?
  dsimp only
  split
  · next h =>
      split at h
      · next hlen => exact ⟨fun _ => hlen, fun _ => ⟨_, rfl⟩⟩
      · cases h
  · next h =>
      split at h
      · cases h
      · next hlen => exact ⟨nofun, fun h => absurd h hlen⟩

theorem digitValue_of_mem_digits {base : Nat} {cs : List Char} :
    ∀ c ∈ (digits base cs).1, digitValue c < base := by
  fun_induction digits base cs with
  | case1 => simp
  | case2 d rest hd ih => exact ih
  | case3 d rest hd => simp
  | case4 => simp
  | case5 c rest hc h ds after hds ih =>
      rw [List.forall_mem_cons]
      rw [hds] at ih
      exact ⟨h, ih⟩
  | case6 c rest hc h => simp

theorem foldl_digits_lt {base : Nat} {cs : List Char} (h : ∀ c ∈ cs, digitValue c < base) (n : Nat) :
    cs.foldl (fun n c => n * base + digitValue c) n < (n + 1) * base ^ cs.length := by
  induction cs generalizing n with
  | nil => simp
  | cons c cs ih =>
      rw [List.forall_mem_cons] at h
      rw [List.foldl_cons, List.length_cons]
      calc cs.foldl _ (n * base + digitValue c)
        _ < (n * base + digitValue c + 1) * base ^ cs.length := ih h.2 _
        _ ≤ ((n + 1) * base) * base ^ cs.length := by
            refine Nat.mul_le_mul_right _ ?_
            rw [Nat.add_mul, Nat.one_mul]
            omega
        _ = (n + 1) * base ^ (cs.length + 1) := by
            rw [Nat.pow_succ', Nat.mul_assoc]

theorem ofDigits_lt {base : Nat} {cs : List Char} (h : ∀ c ∈ cs, digitValue c < base) :
    ofDigits base cs < base ^ cs.length := by
  have := foldl_digits_lt h 0
  rwa [Nat.zero_add, Nat.one_mul] at this

theorem digitValue_of_mem_numeralDigits {base : Nat} {cs : List Char} :
    ∀ c ∈ (numeralDigits base cs).1, digitValue c < base := by
  unfold numeralDigits
  split
  · simp
  · exact digitValue_of_mem_digits

/-- Decimal text is read as a number below the limit. -/
theorem natAbs_lt_of_read {text : List Char} {n : Int} (h : read 10 text = .ok n) :
    n.natAbs < 10 ^ digitLimit := by
  -- whatever the sign, the number is that of its digits
  have hdigits : ∃ body, ∃ negative : Bool,
      (numeralDigits 10 (dropBaseMark 10 body)).1.length ≤ digitLimit ∧
      n = if negative then -(ofDigits 10 (numeralDigits 10 (dropBaseMark 10 body)).1 : Int)
        else ofDigits 10 (numeralDigits 10 (dropBaseMark 10 body)).1 := by
    unfold read at h
    dsimp only at h
    split at h
    all_goals
      split at h
      · cases h
      next hlen =>
      split at h
      · cases h
      cases h
      exact ⟨_, _, by simpa using hlen, rfl⟩
  obtain ⟨body, negative, hlen, rfl⟩ := hdigits
  have habs : (if negative then -(ofDigits 10 (numeralDigits 10 (dropBaseMark 10 body)).1 : Int)
      else ofDigits 10 (numeralDigits 10 (dropBaseMark 10 body)).1).natAbs =
        ofDigits 10 (numeralDigits 10 (dropBaseMark 10 body)).1 := by
    cases negative <;> simp
  rw [habs]
  exact Nat.lt_of_lt_of_le (ofDigits_lt digitValue_of_mem_numeralDigits)
    (Nat.pow_le_pow_right (by decide) hlen)

end Integer

end ManifestPolicy
