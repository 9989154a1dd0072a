import ManifestPolicy.Json.Reader
import ManifestPolicy.Proofs.Outcome

/-!
# Names and numbers in JSON

The reader returns what it leaves of a text, and has a budget that it computes
from the length of the text. Neither matters to what it reads. A value is read
from a piece of the text, and from this piece it is read again whatever stands
behind it, as long as that does not go on with a number, and whatever the
budget, as long as it is not smaller than the piece (`Reads`).

The pieces begin and end with characters that are no blanks. Here they are the
names of values, and numbers (`atom_piece`).
-/


namespace ManifestPolicy.Json

open Text

/-! ## Blanks -/

section Blanks

variable {sp cs : List Char} {c : Char}

theorem isBlank_of_isSpace (h : isSpace c = true) : isBlank c = true := by
  simp only [isSpace, Bool.or_eq_true, beq_iff_eq] at h
  rcases h with ((rfl | rfl) | rfl) | rfl <;> decide

theorem isSpace_of_isBlank (h : isBlank c = false) : isSpace c = false := by
  cases hs : isSpace c with
  | false => rfl
  | true => rw [isBlank_of_isSpace hs] at h; cases h

theorem isBlank_of_isDigit (h : c.isDigit = true) : isBlank c = false := by
  simp only [Char.isDigit, Bool.and_eq_true, decide_eq_true_eq, ge_iff_le] at h
  have hlow : 48 ≤ c.toNat := UInt32.le_iff_toNat_le.1 h.1
  have hhigh : c.toNat ≤ 57 := UInt32.le_iff_toNat_le.1 h.2
  rw [isBlank, Ranges.has, blanks, Ranges.hasCode, if_neg (by omega), Ranges.hasCode,
    if_neg (by omega), Ranges.hasCode, if_pos (by omega), Bool.or_false, Bool.or_eq_false_iff,
    decide_eq_false_iff_not, decide_eq_false_iff_not]
  omega

theorem skipSpace_append (h : ∀ c ∈ sp, isSpace c = true) :
    skipSpace (sp ++ cs) = skipSpace cs :=
  List.dropWhile_append_of_pos h

theorem skipSpace_cons (h : isSpace c = false) : skipSpace (c :: cs) = c :: cs :=
  List.dropWhile_cons_of_neg (by simp [h])

/-- A text is what the reader skips, and the rest. -/
theorem exists_skipSpace (cs : List Char) :
    ∃ sp, cs = sp ++ skipSpace cs ∧ ∀ c ∈ sp, isSpace c = true :=
  ⟨cs.takeWhile isSpace, List.takeWhile_append_dropWhile.symm,
    List.all_eq_true.1 List.all_takeWhile⟩

theorem skipSpace_eq_nil : skipSpace cs = [] ↔ ∀ c ∈ cs, isSpace c = true := by
  constructor
  · intro h
    obtain ⟨sp, hcs, hsp⟩ := exists_skipSpace cs
    rw [h, List.append_nil] at hcs
    rw [hcs]
    exact hsp
  · intro h
    have happend : skipSpace (cs ++ []) = skipSpace [] := skipSpace_append h
    rwa [List.append_nil] at happend

end Blanks

/-! ## Numbers -/

/-- No digit stands at the front. -/
def NoDigit (tail : List Char) : Prop := ∀ c ∈ tail.head?, c.isDigit = false

/-- The text does not go on with a number. -/
def Apart (tail : List Char) : Prop :=
  ∀ c ∈ tail.head?, c.isDigit = false ∧ c ≠ '.' ∧ c ≠ 'e' ∧ c ≠ 'E'

/-- Digits, and at least one. -/
def Digits (ds : List Char) : Prop := ds ≠ [] ∧ ∀ c ∈ ds, c.isDigit = true

section Numbers

variable {cs body rest after tail whole ds : List Char} {c : Char} {n : Int}

theorem apart_nil : Apart [] := by
  intro c hc
  cases hc

theorem apart_cons (h : c.isDigit = false ∧ c ≠ '.' ∧ c ≠ 'e' ∧ c ≠ 'E') : Apart (c :: cs) := by
  intro d hd
  cases hd
  exact h

/-- Blanks with something behind them that is apart are apart. -/
theorem apart_space {sp : List Char} (hsp : ∀ c ∈ sp, isSpace c = true) (h : Apart cs) :
    Apart (sp ++ cs) := by
  cases sp with
  | nil => exact h
  | cons c sp =>
      have hc := hsp c List.mem_cons_self
      simp only [isSpace, Bool.or_eq_true, beq_iff_eq] at hc
      rcases hc with ((rfl | rfl) | rfl) | rfl <;> exact apart_cons (by decide)

theorem Apart.noDigit (h : Apart tail) : NoDigit tail := fun c hc => (h c hc).1

theorem takeWhile_digits (hds : ∀ c ∈ ds, c.isDigit = true) (h : NoDigit tail) :
    (ds ++ tail).takeWhile Char.isDigit = ds ∧ (ds ++ tail).dropWhile Char.isDigit = tail := by
  rw [List.takeWhile_append_of_pos hds, List.dropWhile_append_of_pos hds]
  cases tail with
  | nil => exact ⟨List.append_nil ds, rfl⟩
  | cons c tail =>
      have hc : ¬ c.isDigit = true := by simp [h c rfl]
      rw [List.takeWhile_cons_of_neg hc, List.dropWhile_cons_of_neg hc]
      exact ⟨List.append_nil ds, rfl⟩

theorem exists_digits (cs : List Char) :
    cs = cs.takeWhile Char.isDigit ++ cs.dropWhile Char.isDigit ∧
      ∀ c ∈ cs.takeWhile Char.isDigit, c.isDigit = true :=
  ⟨List.takeWhile_append_dropWhile.symm, List.all_eq_true.1 List.all_takeWhile⟩

theorem Digits.head (h : Digits ds) : ∃ d rest, ds = d :: rest ∧ d.isDigit = true := by
  obtain ⟨d, rest, rfl⟩ := List.exists_cons_of_ne_nil h.1
  exact ⟨d, rest, rfl, h.2 d List.mem_cons_self⟩

/-- The digits of a whole number are read again. -/
theorem wholeDigits_some (h : wholeDigits body = some (whole, rest)) :
    body = whole ++ rest ∧ Digits whole ∧
      ∀ tail, NoDigit tail → wholeDigits (whole ++ tail) = some (whole, tail) := by
  unfold wholeDigits at h
  split at h
  · cases h
    exact ⟨rfl, ⟨by simp, fun c hc => by rw [List.mem_singleton.1 hc]; rfl⟩, fun tail _ => rfl⟩
  · next c rest hc =>
      split at h
      · next hdigit =>
          cases h
          obtain ⟨hcs, hds⟩ := exists_digits rest
          refine ⟨by rw [List.cons_append, ← hcs], ⟨by simp, ?_⟩, fun tail htail => ?_⟩
          · rw [List.forall_mem_cons]
            exact ⟨hdigit, hds⟩
          · obtain ⟨htake, hdrop⟩ := takeWhile_digits hds htail
            rw [List.cons_append, wholeDigits, if_pos hdigit, htake, hdrop]
            exact hc
      · cases h
  · cases h

/-- The digits of a fraction behind their point, if there are any. -/
def pointed : List Char → List Char
  | [] => []
  | ds => '.' :: ds

theorem fractionDigits_eq (cs : List Char) :
    cs = pointed (fractionDigits cs).1 ++ (fractionDigits cs).2 ∧
      ∀ c ∈ (fractionDigits cs).1, c.isDigit = true := by
  unfold fractionDigits
  split
  · next d rest =>
      split
      · next hdigit =>
          obtain ⟨hcs, hds⟩ := exists_digits rest
          refine ⟨?_, List.forall_mem_cons.2 ⟨hdigit, hds⟩⟩
          rw [pointed, List.cons_append, List.cons_append, ← hcs]
          simp
      · exact ⟨rfl, by simp⟩
  · exact ⟨rfl, by simp⟩

theorem fractionDigits_pointed (hds : ∀ c ∈ ds, c.isDigit = true) (htail : NoDigit tail)
    (hpoint : ∀ c ∈ tail.head?, c ≠ '.') : fractionDigits (pointed ds ++ tail) = (ds, tail) := by
  cases ds with
  | nil =>
      rw [pointed, List.nil_append]
      unfold fractionDigits
      split
      · exact absurd rfl (hpoint '.' rfl)
      · rfl
  | cons d ds =>
      obtain ⟨htake, hdrop⟩ := takeWhile_digits (fun c hc => hds c (List.mem_cons_of_mem d hc)) htail
      rw [pointed, List.cons_append, List.cons_append, fractionDigits,
        if_pos (hds d List.mem_cons_self), htake, hdrop]
      simp

/-- Whether an exponent is negative by its sign, and what follows the sign. -/
def exponentSign : List Char → Bool × List Char
  | '-' :: ds => (true, ds)
  | '+' :: ds => (false, ds)
  | ds => (false, ds)

theorem exponentPart_cons (hc : c = 'e' ∨ c = 'E') :
    exponentPart (c :: rest) =
      if ((exponentSign rest).2.takeWhile Char.isDigit).isEmpty then none
      else some
        (if (exponentSign rest).1 then -(ofDigits 10 ((exponentSign rest).2.takeWhile Char.isDigit) : Int)
          else ofDigits 10 ((exponentSign rest).2.takeWhile Char.isDigit),
        (exponentSign rest).2.dropWhile Char.isDigit) := by
  have hc : (c == 'e' || c == 'E') = true := by simpa using hc
  unfold exponentPart
  simp only [hc, if_true]
  rfl

/-- The sign is the first character, or there is none and it does not matter
which digits follow. -/
theorem exponentSign_eq (rest : List Char) :
    ∃ sign, rest = sign ++ (exponentSign rest).2 ∧
      ∀ ds tail, Digits ds → exponentSign (sign ++ (ds ++ tail)) =
        ((exponentSign rest).1, ds ++ tail) := by
  unfold exponentSign
  split
  · exact ⟨['-'], rfl, fun _ _ _ => rfl⟩
  · exact ⟨['+'], rfl, fun _ _ _ => rfl⟩
  · refine ⟨[], rfl, fun ds tail hds => ?_⟩
    obtain ⟨d, rest, rfl, hd⟩ := hds.head
    rw [List.nil_append]
    split
    · next h => cases h; cases hd
    · next h => cases h; cases hd
    · rfl

/-- The exponent is read again. -/
theorem exponentPart_some (h : exponentPart cs = some (n, after)) :
    ∃ c sign ds, (c = 'e' ∨ c = 'E') ∧ Digits ds ∧ cs = c :: (sign ++ (ds ++ after)) ∧
      ∀ tail, NoDigit tail → exponentPart (c :: (sign ++ (ds ++ tail))) = some (n, tail) := by
  have hcons : ∃ c rest, cs = c :: rest ∧ (c = 'e' ∨ c = 'E') := by
    unfold exponentPart at h
    split at h
    · next c rest =>
        split at h
        · next hc => exact ⟨c, rest, rfl, by simpa using hc⟩
        · cases h
    · cases h
  obtain ⟨c, rest, rfl, hc⟩ := hcons
  rw [exponentPart_cons hc] at h
  split at h
  · cases h
  · next hne =>
      obtain ⟨sign, hrest, hsign⟩ := exponentSign_eq rest
      obtain ⟨hcs, hds⟩ := exists_digits (exponentSign rest).2
      have hdigits : Digits ((exponentSign rest).2.takeWhile Char.isDigit) :=
        ⟨by simpa using hne, hds⟩
      refine ⟨c, sign, _, hc, hdigits, ?_, fun tail htail => ?_⟩
      · cases h
        rw [← hcs, ← hrest]
      · obtain ⟨htake, hdrop⟩ := takeWhile_digits hds htail
        rw [exponentPart_cons hc, hsign _ tail hdigits, htake, hdrop, if_neg hne]
        cases h
        rfl

theorem exponentPart_apart (h : Apart tail) : exponentPart tail = none := by
  cases tail with
  | nil => rfl
  | cons c tail =>
      obtain ⟨_, _, he, hE⟩ := h c rfl
      simp [exponentPart, he, hE]

end Numbers

/-! ## Pieces of a text -/

/-- A piece begins with a character that is no blank, and no mark of the byte order. -/
def Opens (pre : List Char) : Prop :=
  ∃ c rest, pre = c :: rest ∧ isBlank c = false ∧ c ≠ '\ufeff'

/-- A piece ends with a character that is no blank. -/
def Closes (pre : List Char) : Prop := ∃ init c, pre = init ++ [c] ∧ isBlank c = false

section Pieces

variable {pre post : List Char} {c : Char}

theorem opens_cons (h : isBlank c = false ∧ c ≠ '\ufeff') : Opens (c :: pre) :=
  ⟨c, pre, rfl, h⟩

theorem Opens.append (h : Opens pre) (post : List Char) : Opens (pre ++ post) := by
  obtain ⟨c, rest, rfl, hc⟩ := h
  exact ⟨c, rest ++ post, rfl, hc⟩

theorem Opens.head?_append (h : Opens pre) (tail : List Char) :
    (pre ++ tail).head? = pre.head? := by
  obtain ⟨c, rest, rfl, _⟩ := h
  rfl

theorem closes_concat (pre : List Char) (h : isBlank c = false) : Closes (pre ++ [c]) :=
  ⟨pre, c, rfl, h⟩

theorem Closes.append (h : Closes post) (pre : List Char) : Closes (pre ++ post) := by
  obtain ⟨init, c, rfl, hc⟩ := h
  exact ⟨pre ++ init, c, (List.append_assoc ..).symm, hc⟩

theorem Closes.cons (h : Closes post) (c : Char) : Closes (c :: post) := h.append [c]

theorem Digits.closes {ds : List Char} (h : Digits ds) : Closes ds := by
  refine ⟨ds.dropLast, ds.getLast h.1, (List.dropLast_concat_getLast h.1).symm, ?_⟩
  exact isBlank_of_isDigit (h.2 _ (List.getLast_mem h.1))

end Pieces

/-- A value is read from a piece of text, whatever follows and whatever the
budget, within bounds. -/
structure Reads {α : Type} (read : Nat → List Char → Except Stop (α × List Char))
    (pre : List Char) (a : α) : Prop where
  opens : Opens pre
  closes : Closes pre
  again : ∀ tail fuel, Apart tail → pre.length ≤ fuel → read fuel (pre ++ tail) = .ok (a, tail)

section Values

variable {cs after tail whole fraction : List Char} {v : Json}

/-- Whether a number is negative by its sign, and what follows the sign. -/
def numberSign : List Char → Bool × List Char
  | '-' :: rest => (true, rest)
  | cs => (false, cs)

/-- The number with these parts. -/
def numberOf (negative : Bool) (whole fraction : List Char) (power : Option Int) :
    Except Stop Json :=
  if fraction.isEmpty && power.isNone then
    match Integer.read 10 whole with
    | .ok n => .ok (.int (if negative then -n else n))
    | .error f => .error (.integer f)
  else
    .ok (.float (Binary64.ofDecimal negative (ofDigits 10 (whole ++ fraction))
      (power.getD 0 - fraction.length)))

/-- What follows an exponent, if there is one. -/
def afterExponent (cs : List Char) : List Char := ((exponentPart cs).map Prod.snd).getD cs

theorem numberSign_of_ne {c : Char} (hc : c ≠ '-') : numberSign (c :: cs) = (false, c :: cs) := by
  unfold numberSign
  split
  · next h =>
      cases h
      exact absurd rfl hc
  · rfl

/-- A number behind its sign, by its parts, of which only the whole digits must
be there. -/
def numberBehind (negative : Bool) (cs : List Char) :
    Option (List Char × List Char) → Except Stop (Json × List Char)
  | none => .error (.complaint .value cs)
  | some (whole, rest) =>
    (numberOf negative whole (fractionDigits rest).1
      ((exponentPart (fractionDigits rest).2).map Prod.fst)).map
        fun v => (v, afterExponent (fractionDigits rest).2)

theorem number_eq (cs : List Char) : number cs =
    numberBehind (numberSign cs).1 cs (wholeDigits (numberSign cs).2) := by
  unfold number
  split
  next negative ds hdisc =>
  have hsign : numberSign cs = (negative, ds) := by
    split at hdisc
    · cases hdisc
      rfl
    · next hother =>
        cases hdisc
        cases cs with
        | nil => rfl
        | cons c cs => exact numberSign_of_ne fun hc => hother cs (hc ▸ rfl)
  rw [hsign]
  cases wholeDigits ds with
  | none => rfl
  | some p =>
      obtain ⟨whole, rest⟩ := p
      rw [numberBehind]
      unfold numberOf afterExponent
      dsimp only
      obtain ⟨fraction, rest⟩ := fractionDigits rest
      dsimp only
      cases exponentPart rest with
      | none =>
          cases fraction.isEmpty with
          | false => rfl
          | true => cases Integer.read 10 whole <;> rfl
      | some e => cases fraction.isEmpty <;> rfl

/-- A number that was read has whole digits, and its parts make it up. -/
theorem number_eq_ok (h : number cs = .ok (v, after)) :
    ∃ whole rest, wholeDigits (numberSign cs).2 = some (whole, rest) ∧
      numberOf (numberSign cs).1 whole (fractionDigits rest).1
        ((exponentPart (fractionDigits rest).2).map Prod.fst) = .ok v ∧
      after = afterExponent (fractionDigits rest).2 := by
  rw [number_eq] at h
  cases hwhole : wholeDigits (numberSign cs).2 with
  | none => rw [hwhole] at h; cases h
  | some p =>
      rw [hwhole] at h
      obtain ⟨_, hv, hpair⟩ := map_eq_ok.1 h
      cases hpair
      exact ⟨p.1, p.2, rfl, hv, rfl⟩

/-- The sign is a minus, or there is none and it does not matter which digits follow. -/
theorem numberSign_eq (cs : List Char) :
    ∃ sign, (sign = [] ∨ sign = ['-']) ∧ cs = sign ++ (numberSign cs).2 ∧
      ∀ ds tail, Digits ds → numberSign (sign ++ (ds ++ tail)) =
        ((numberSign cs).1, ds ++ tail) := by
  unfold numberSign
  split
  · exact ⟨['-'], .inr rfl, rfl, fun _ _ _ => rfl⟩
  · refine ⟨[], .inl rfl, rfl, fun ds tail hds => ?_⟩
    obtain ⟨d, rest, rfl, hd⟩ := hds.head
    rw [List.nil_append]
    split
    · next h =>
        cases h
        cases hd
    · rfl

/-- The exponent of a number, if there is one, is read again. -/
theorem exists_exponent (cs : List Char) :
    ∃ pre, cs = pre ++ afterExponent cs ∧ (pre = [] ∨ Closes pre) ∧
      ∀ tail, Apart tail → NoDigit (pre ++ tail) ∧ (∀ c ∈ (pre ++ tail).head?, c ≠ '.') ∧
        (exponentPart (pre ++ tail)).map Prod.fst = (exponentPart cs).map Prod.fst ∧
        afterExponent (pre ++ tail) = tail := by
  cases he : exponentPart cs with
  | none =>
      refine ⟨[], by simp [afterExponent, he], .inl rfl, fun tail htail => ?_⟩
      rw [List.nil_append]
      exact ⟨htail.noDigit, fun c hc => (htail c hc).2.1, by rw [exponentPart_apart htail],
        by simp [afterExponent, exponentPart_apart htail]⟩
  | some e =>
      obtain ⟨n, after⟩ := e
      obtain ⟨c, sign, ds, hc, hds, hcs, hagain⟩ := exponentPart_some he
      refine ⟨c :: (sign ++ ds), ?_, .inr ((hds.closes.append sign).cons c), fun tail htail => ?_⟩
      · rw [afterExponent, he, hcs, List.cons_append, List.append_assoc]
        rfl
      · rw [List.cons_append, List.append_assoc]
        refine ⟨?_, ?_, by rw [hagain tail htail.noDigit]; rfl,
          by simp [afterExponent, hagain tail htail.noDigit]⟩
        all_goals
          intro d hd
          cases hd
          rcases hc with rfl | rfl <;> decide

/-- What a number is read from: a sign, perhaps, then digits. -/
def Numeral (pre : List Char) : Prop :=
  ∃ sign d rest, pre = sign ++ d :: rest ∧ (sign = [] ∨ sign = ['-']) ∧ d.isDigit = true

theorem Numeral.opens {pre : List Char} (h : Numeral pre) : Opens pre := by
  obtain ⟨sign, d, rest, rfl, rfl | rfl, hd⟩ := h
  · refine opens_cons ⟨isBlank_of_isDigit hd, ?_⟩
    rintro rfl
    cases hd
  · exact opens_cons (by decide)

/-- A number is read again. -/
theorem number_piece (h : number cs = .ok (v, after)) :
    ∃ pre, cs = pre ++ after ∧ Numeral pre ∧ Closes pre ∧
      ∀ tail, Apart tail → number (pre ++ tail) = .ok (v, tail) := by
  obtain ⟨sign, hform, hsign, hsigned⟩ := numberSign_eq cs
  obtain ⟨whole, rest, hwhole, hv, rfl⟩ := number_eq_ok h
  obtain ⟨hbody, hdigits, hwhole⟩ := wholeDigits_some hwhole
  obtain ⟨hrest, hfraction⟩ := fractionDigits_eq rest
  obtain ⟨e, he, hcloses, hagain⟩ := exists_exponent (fractionDigits rest).2
  refine ⟨sign ++ (whole ++ (pointed (fractionDigits rest).1 ++ e)), ?_, ?_, ?_,
    fun tail htail => ?_⟩
  · rw [List.append_assoc, List.append_assoc, List.append_assoc, ← he, ← hrest, ← hbody, ← hsign]
  · obtain ⟨d, more, rfl, hd⟩ := hdigits.head
    exact ⟨sign, d, _, rfl, hform, hd⟩
  · rcases hcloses with rfl | hcloses
    · rw [List.append_nil]
      cases hf : (fractionDigits rest).1 with
      | nil =>
          rw [pointed, List.append_nil]
          exact hdigits.closes.append sign
      | cons d ds =>
          have hds : Digits (d :: ds) := ⟨by simp, hf ▸ hfraction⟩
          exact ((hds.closes.cons '.').append whole).append sign
    · exact ((hcloses.append _).append whole).append sign
  · obtain ⟨hnodigit, hnopoint, hpower, hafter⟩ := hagain tail htail
    have hread := fractionDigits_pointed hfraction hnodigit hnopoint
    have hnext : NoDigit (pointed (fractionDigits rest).1 ++ (e ++ tail)) := by
      cases (fractionDigits rest).1 with
      | nil => exact hnodigit
      | cons d ds =>
          intro c hc
          cases hc
          decide
    rw [number_eq, List.append_assoc, List.append_assoc, List.append_assoc,
      hsigned whole _ hdigits, hwhole _ hnext]
    rw [numberBehind, hread, hpower, hafter, hv]
    rfl

theorem word?_eq_some {w : String} : word? w cs = some after ↔ cs = w.toList ++ after := by
  unfold word?
  rw [Option.ite_none_right_eq_some, List.isPrefixOf_iff_prefix, Option.some.injEq]
  constructor
  · rintro ⟨⟨post, rfl⟩, rfl⟩
    rw [List.drop_left]
  · rintro rfl
    exact ⟨List.prefix_append .., List.drop_left ..⟩

/-- The values that have a name. -/
def words : List (String × Json) :=
  [("null", .null), ("true", .bool true), ("false", .bool false), ("NaN", .float .nan),
    ("Infinity", .float (.infinite false)), ("-Infinity", .float (.infinite true))]

/-- The value that a name at the front of a text names, and what follows it. -/
def named? (cs : List Char) : Option (Json × List Char) :=
  words.findSome? fun p => (word? p.1 cs).map fun after => (p.2, after)

theorem atom_eq (cs : List Char) :
    atom cs = match named? cs with
      | some p => .ok p
      | none => number cs := by
  unfold atom named? words
  simp only [List.findSome?_cons, List.findSome?_nil]
  cases word? "null" cs with
  | some rest => rfl
  | none =>
  cases word? "true" cs with
  | some rest => rfl
  | none =>
  cases word? "false" cs with
  | some rest => rfl
  | none =>
  cases word? "NaN" cs with
  | some rest => rfl
  | none =>
  cases word? "Infinity" cs with
  | some rest => rfl
  | none =>
  cases word? "-Infinity" cs with
  | some rest => rfl
  | none => rfl

theorem named?_word {p : String × Json} (h : p ∈ words) (tail : List Char) :
    named? (p.1.toList ++ tail) = some (p.2, tail) := by
  simp only [words, List.mem_cons, List.not_mem_nil, or_false] at h
  rcases h with rfl | rfl | rfl | rfl | rfl | rfl <;> rfl

/-- The names are told from numbers by their first two characters. -/
theorem words_spelling {p : String × Json} (h : p ∈ words) :
    ∃ c c' rest, p.1.toList = c :: c' :: rest ∧ c.isDigit = false ∧ c'.isDigit = false ∧
      (isBlank c = false ∧ c ≠ '\ufeff') := by
  simp only [words, List.mem_cons, List.not_mem_nil, or_false] at h
  rcases h with rfl | rfl | rfl | rfl | rfl | rfl <;>
    exact ⟨_, _, _, rfl, by decide, by decide, by decide⟩

theorem words_closes {p : String × Json} (h : p ∈ words) : Closes p.1.toList := by
  have hlast : ∃ c, p.1.toList.getLast? = some c ∧ isBlank c = false := by
    simp only [words, List.mem_cons, List.not_mem_nil, or_false] at h
    rcases h with rfl | rfl | rfl | rfl | rfl | rfl <;> exact ⟨_, rfl, by decide⟩
  obtain ⟨c, hc, hblank⟩ := hlast
  obtain ⟨init, hinit⟩ := List.getLast?_eq_some_iff.1 hc
  exact ⟨init, c, hinit, hblank⟩

theorem named?_numeral {pre : List Char} (h : Numeral pre) (tail : List Char) :
    named? (pre ++ tail) = none := by
  rw [named?, List.findSome?_eq_none_iff]
  intro p hp
  rw [Option.map_eq_none_iff, Option.eq_none_iff_forall_ne_some]
  intro after hafter
  obtain ⟨sign, d, rest, rfl, hsign, hd⟩ := h
  obtain ⟨c, c', more, hword, hc, hc', _⟩ := words_spelling hp
  rw [word?_eq_some, hword] at hafter
  rcases hsign with rfl | rfl
  · obtain ⟨rfl, _⟩ := List.cons.inj hafter
    rw [hc] at hd
    cases hd
  · obtain ⟨rfl, _⟩ := List.cons.inj (List.cons.inj hafter).2
    rw [hc'] at hd
    cases hd

theorem atom_piece (h : atom cs = .ok (v, after)) :
    ∃ pre, cs = pre ++ after ∧ Reads (fun _ => atom) pre v := by
  rw [atom_eq] at h
  split at h
  · next p hnamed =>
      cases h
      obtain ⟨w, hw, hsome⟩ := List.exists_of_findSome?_eq_some hnamed
      obtain ⟨rest, hrest, hpair⟩ := Option.map_eq_some_iff.1 hsome
      cases hpair
      refine ⟨w.1.toList, word?_eq_some.1 hrest, ?_, words_closes hw, fun tail _ _ _ => ?_⟩
      · obtain ⟨c, c', more, hword, _, _, hc⟩ := words_spelling hw
        rw [hword]
        exact opens_cons hc
      · rw [atom_eq, named?_word hw]
  · obtain ⟨pre, hcs, hnumeral, hcloses, hagain⟩ := number_piece h
    refine ⟨pre, hcs, hnumeral.opens, hcloses, fun tail _ htail _ => ?_⟩
    rw [atom_eq, named?_numeral hnumeral]
    exact hagain tail htail

end Values

end ManifestPolicy.Json
