import ManifestPolicy.Proofs.IntegerLimit
import ManifestPolicy.Proofs.JsonAtoms

/-!
# Decimal text of integers

The decimal text of an integer is a sign, if it is negative, and digits that do
not begin with a needless zero (`Integer.write_eq_ok`). A reader of integers
takes such digits for what they are (`Integer.read_decimal`), and a reader of
JSON takes the whole text for the integer, whatever stands behind it that is no
part of a number (`Json.reads_integer`).
-/

namespace ManifestPolicy

open Text

/-! ## Digits -/

theorem toList_decimal (n : Nat) : (toString n).toList = Nat.toDigits 10 n := by
  rw [Nat.toString_eq_repr, Nat.toList_repr]

/-- The digits of a number above zero do not begin with a zero. -/
theorem head?_toDigits_ne_zero {n : Nat} (h : n ≠ 0) :
    ∀ d ∈ (Nat.toDigits 10 n).head?, d ≠ '0' := by
  induction n using Nat.strongRecOn with
  | ind n ih =>
      rw [Nat.toDigits_eq_if (by decide)]
      split
      · next hlt =>
          have hdigits : ∀ d < 10, d ≠ 0 → d.digitChar ≠ '0' := by decide
          rintro d ⟨⟩
          exact hdigits n hlt h
      · next hge =>
          have hhead := ih (n / 10) (by omega) (by omega)
          obtain ⟨d, ds, hds⟩ := List.exists_cons_of_ne_nil (@Nat.toDigits_ne_nil (n / 10) 10)
          rw [hds] at hhead ⊢
          exact hhead

/-- Digits without a needless zero: those of a whole number. -/
structure Decimal.Whole (ds : List Char) : Prop where
  digits : Json.Digits ds
  head : ds = ['0'] ∨ ∀ d ∈ ds.head?, d ≠ '0'

theorem whole_decimal (n : Nat) : Decimal.Whole (toString n).toList := by
  rw [toList_decimal]
  refine ⟨⟨Nat.toDigits_ne_nil, fun c => Nat.isDigit_of_mem_toDigits (by decide) (by decide)⟩, ?_⟩
  by_cases h : n = 0
  · subst h
    exact .inl (Nat.toDigits_zero 10)
  · exact .inr (head?_toDigits_ne_zero h)

theorem toNat_of_isDigit {c : Char} (h : c.isDigit = true) : 48 ≤ c.toNat ∧ c.toNat ≤ 57 := by
  simp only [Char.isDigit, Bool.and_eq_true, decide_eq_true_eq, ge_iff_le] at h
  exact ⟨UInt32.le_iff_toNat_le.1 h.1, UInt32.le_iff_toNat_le.1 h.2⟩

theorem digitValue_of_isDigit {c : Char} (h : c.isDigit = true) : digitValue c = c.toNat - 48 := by
  rw [digitValue, if_pos h]

theorem ofDigits_decimal (n : Nat) : ofDigits 10 (toString n).toList = n := by
  have hfold : ∀ ds : List Char, (∀ c ∈ ds, c.isDigit = true) → ∀ k : Nat,
      ds.foldl (fun n c => n * 10 + digitValue c) k = Nat.ofDigitChars 10 ds k := by
    intro ds hds
    induction ds with
    | nil => exact fun _ => rfl
    | cons c ds ih =>
        intro k
        rw [List.forall_mem_cons] at hds
        rw [List.foldl_cons, Nat.ofDigitChars_cons, ih hds.2, digitValue_of_isDigit hds.1,
          Nat.mul_comm k]
        rfl
  rw [ofDigits, hfold _ (whole_decimal n).digits.2, toList_decimal, Nat.ofDigitChars_ten_toDigits]

namespace Integer

/-! ## Reading and writing integers -/

section Digits

variable {ds : List Char}

theorem stripNumeral_digits (h : ∀ c ∈ ds, c.isDigit = true) : stripNumeral ds = ds := by
  have hkept (cs : List Char) (hcs : ∀ c ∈ cs, c.isDigit = true) :
      cs.dropWhile isNumeralBlank = cs := by
    cases cs with
    | nil => rfl
    | cons c cs =>
        refine List.dropWhile_cons_of_neg ?_
        simp [isNumeralBlank, Json.isBlank_of_isDigit (hcs c List.mem_cons_self)]
  rw [stripNumeral, hkept ds h, hkept ds.reverse fun c hc => h c (List.mem_reverse.1 hc),
    List.reverse_reverse]

theorem asciiDigits_digits (h : ∀ c ∈ ds, c.isDigit = true) : asciiDigits ds = ds := by
  refine (List.map_congr_left fun c hc => ?_).trans (List.map_id ds)
  have hlow := (toNat_of_isDigit (h c hc)).1
  rw [decimalValue, if_pos (h c hc)]
  dsimp only
  rw [Nat.add_sub_cancel' hlow, Char.ofNat_toNat]
  rfl

theorem digits_digits (h : ∀ c ∈ ds, c.isDigit = true) : digits 10 ds = (ds, []) := by
  induction ds with
  | nil => rfl
  | cons c ds ih =>
      rw [List.forall_mem_cons] at h
      have hcode := toNat_of_isDigit h.1
      have hvalue : digitValue c < 10 := by rw [digitValue_of_isDigit h.1]; omega
      have hc : c ≠ '_' := by rintro rfl; cases h.1
      rw [digits.eq_def]
      split
      · next heq => cases heq
      · next heq => cases heq; exact absurd rfl hc
      · next heq =>
          cases heq
          rw [if_pos hvalue, ih h.2]

/-- Digits have no mark of a base among them. -/
theorem numeralDigits_digits (h : ∀ c ∈ ds, c.isDigit = true) :
    numeralDigits 10 (dropBaseMark 10 ds) = (ds, []) := by
  have hmark : dropBaseMark 10 ds = ds := by
    unfold dropBaseMark
    split
    · rfl
    · rfl
  rw [hmark, numeralDigits.eq_def]
  split
  · cases h '_' List.mem_cons_self
  · exact digits_digits h

end Digits

/-- An integer whose digits are not too many is written with a sign, if it has one, and them. -/
theorem write_eq_ok {n : Int} {s : String} : write n = .ok s ↔
    (toString n.natAbs).toList.length ≤ digitLimit ∧
      s.toList = (if n < 0 then ['-'] else []) ++ (toString n.natAbs).toList := by
  unfold write write?
  dsimp only
  rw [String.length_toList]
  by_cases hlen : (toString n.natAbs).length ≤ digitLimit
  · rw [if_pos hlen, Except.ok.injEq, ← String.toList_inj]
    refine ⟨fun h => ⟨hlen, ?_⟩, fun h => ?_⟩
    · rw [← h]
      split
      · rw [String.toList_append]
        rfl
      · rfl
    · rw [h.2]
      split
      · rw [String.toList_append]
        rfl
      · rfl
  · rw [if_neg hlen]
    exact ⟨nofun, fun h => absurd h.1 hlen⟩

theorem read_decimal {n : Nat} (h : (toString n).toList.length ≤ digitLimit) :
    read 10 (toString n).toList = .ok n := by
  have hds := (whole_decimal n).digits
  have hvalue := ofDigits_decimal n
  generalize (toString n).toList = ds at h hds hvalue
  obtain ⟨d, rest, rfl, hd⟩ := hds.head
  unfold read
  rw [stripNumeral_digits hds.2, asciiDigits_digits hds.2]
  dsimp only
  split
  · next heq => cases heq; cases hd
  · next heq => cases heq; cases hd
  · dsimp only
    rw [numeralDigits_digits hds.2]
    dsimp only
    rw [if_neg (by simpa using h), if_neg (by simp), hvalue]
    rfl

end Integer

namespace Json

/-! ## Integers in JSON -/

theorem wholeDigits_whole {ds tail : List Char} (h : Decimal.Whole ds) (htail : NoDigit tail) :
    wholeDigits (ds ++ tail) = some (ds, tail) := by
  obtain ⟨d, rest, rfl, hd⟩ := h.digits.head
  rcases h.head with hzero | hhead
  · cases hzero
    rfl
  · obtain ⟨htake, hdrop⟩ :=
      takeWhile_digits (fun c hc => h.digits.2 c (List.mem_cons_of_mem d hc)) htail
    rw [List.cons_append, wholeDigits, if_pos hd, htake, hdrop]
    exact hhead d rfl

/-- Whole digits alone are an integer. -/
theorem numberOf_whole {whole : List Char} {n : Int} (h : Integer.read 10 whole = .ok n)
    (negative : Bool) :
    numberOf negative whole [] none = .ok (.int (if negative then -n else n)) := by
  rw [numberOf, h]
  rfl

/-- The decimal text of an integer is read as it. -/
theorem reads_integer {n : Int} {s : String} (h : Integer.write n = .ok s) :
    Reads (fun _ => atom) s.toList (.int n) := by
  obtain ⟨hlen, hs⟩ := Integer.write_eq_ok.1 h
  have hwhole := whole_decimal n.natAbs
  have hread := Integer.read_decimal hlen
  rw [hs]
  generalize (toString n.natAbs).toList = ds at hlen hwhole hread
  obtain ⟨d, rest, hds, hd⟩ := hwhole.digits.head
  have hnumeral : Numeral ((if n < 0 then ['-'] else []) ++ ds) := by
    refine ⟨_, d, rest, by rw [hds], ?_, hd⟩
    split
    · exact .inr rfl
    · exact .inl rfl
  have hsign (tail : List Char) : numberSign ((if n < 0 then ['-'] else []) ++ (ds ++ tail)) =
      (decide (n < 0), ds ++ tail) := by
    split
    · next hn => rw [decide_eq_true hn]; rfl
    · next hn =>
        rw [decide_eq_false hn, List.nil_append, hds]
        refine numberSign_of_ne ?_
        rintro rfl
        cases hd
  refine ⟨hnumeral.opens, hwhole.digits.closes.append _, fun tail _ htail _ => ?_⟩
  rw [atom_eq, named?_numeral hnumeral]
  dsimp only
  have hfraction : fractionDigits (pointed [] ++ tail) = ([], tail) :=
    fractionDigits_pointed (fun _ h => nomatch h) htail.noDigit fun c hc => (htail c hc).2.1
  rw [pointed, List.nil_append] at hfraction
  have hn : (if decide (n < 0) then -(n.natAbs : Int) else (n.natAbs : Int)) = n := by
    split
    · next h => rw [decide_eq_true_eq] at h; omega
    · next h => rw [decide_eq_true_eq] at h; omega
  rw [number_eq, List.append_assoc, hsign, wholeDigits_whole hwhole htail.noDigit, numberBehind,
    hfraction]
  dsimp only
  rw [exponentPart_apart htail, Option.map_none, numberOf_whole hread, hn, afterExponent,
    exponentPart_apart htail]
  rfl

end Json

end ManifestPolicy
