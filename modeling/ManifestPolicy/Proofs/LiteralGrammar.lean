import Mathlib.Data.List.Nodup
import ManifestPolicy.Proofs.JsonGrammar
import ManifestPolicy.Proofs.LiteralReading
import ManifestPolicy.Rule.Document

/-!
# Which literals are JSON

A literal is written as JSON, and in two respects it may not be what the
standard calls so. A number that is infinite, or no number at all, is written
by a name that the standard does not have; and keys that are not strings are
written as strings, where they can meet other keys. There is nothing else: a
literal is a JSON text exactly if all its numbers are finite, and one without
two members of one name exactly if besides no two keys of a mapping have the
same text (`Literal.write_standard`).

That the text is derived in the grammar is shown along the value, with the
words that its numbers need (`value_encode`). That there is no other way to
derive it follows from the grammar being unambiguous.
-/

namespace ManifestPolicy

open Json (Digits)
open Json.Grammar

/-! ## Numbers -/

/-- Whether the number is neither infinite nor no number. -/
def Binary64.isFinite : Binary64 → Bool
  | .finite .. => true
  | _ => false

namespace Decimal

variable {ds : List Char} {k : Nat}

theorem digits_zeros (k : Nat) : ∀ c ∈ List.replicate k '0', c.isDigit = true := by
  intro c hc
  rw [List.eq_of_mem_replicate hc]
  rfl

theorem digits_append {es : List Char} (hne : ds ++ es ≠ []) (hds : ∀ c ∈ ds, c.isDigit = true)
    (hes : ∀ c ∈ es, c.isDigit = true) : Digits (ds ++ es) :=
  ⟨hne, List.forall_mem_append.2 ⟨hds, hes⟩⟩

/-- Some of the first digits of a number above zero, perhaps with others behind them. -/
theorem whole_of_head {d : Char} {rest : List Char} (hd : d ≠ '0')
    (h : ∀ c ∈ d :: rest, c.isDigit = true) : Whole (d :: rest) :=
  ⟨⟨List.cons_ne_nil d rest, h⟩, .inr (by rintro c ⟨⟩; exact hd)⟩

/-- A digit alone may be zero. -/
theorem whole_digit {d : Char} (h : d.isDigit = true) : Whole [d] := by
  refine ⟨⟨List.cons_ne_nil d [], List.forall_mem_singleton.2 h⟩, ?_⟩
  by_cases hd : d = '0'
  · exact .inl (by rw [hd])
  · exact .inr (by rintro c ⟨⟩; exact hd)

/-- The decimal text of a number above zero: its first digit, which is no zero, and the others. -/
theorem decimal_pos {n : Nat} (h : n ≠ 0) : ∃ d rest, (toString n).toList = d :: rest ∧ d ≠ '0' ∧
    ∀ c ∈ d :: rest, c.isDigit = true := by
  have hds := (whole_decimal n).digits.2
  rw [toList_decimal] at hds ⊢
  obtain ⟨d, rest, hdigits⟩ := List.exists_cons_of_ne_nil (@Nat.toDigits_ne_nil n 10)
  have hhead := head?_toDigits_ne_zero h
  rw [hdigits] at hds hhead ⊢
  exact ⟨d, rest, rfl, hhead d rfl, hds⟩

end Decimal

/-- A number, whether or not a minus is put before it. -/
def Unsigned (cs : List Char) : Prop := ∀ sign, sign = [] ∨ sign = ['-'] → Number (sign ++ cs)

section Unsigned

variable {whole fraction exponent ds : List Char}

theorem unsigned_pointed (hwhole : Decimal.Whole whole) (hds : Digits ds) :
    Unsigned (whole ++ '.' :: ds) := by
  intro sign hsign
  have h := Number.mk hsign hwhole (.inr ⟨ds, hds, rfl⟩) (.inl rfl)
  rwa [List.append_nil] at h

theorem unsigned_scaled (hwhole : Decimal.Whole whole)
    (hfraction : fraction = [] ∨ Fraction fraction) (hexponent : Exponent exponent) :
    Unsigned (whole ++ fraction ++ exponent) := by
  intro sign hsign
  have h := Number.mk hsign hwhole hfraction (.inr hexponent)
  rwa [← List.append_assoc whole] at h

end Unsigned

namespace Shortest

open Decimal

/-- An exponent has a sign and digits. -/
theorem exponent_layOut (e : Int) : Exponent ((if e < 0 then "e-" else "e+").toList ++
    (if (toString e.natAbs).length < 2 then "0" ++ toString e.natAbs
      else toString e.natAbs).toList) := by
  have hdigits : Digits (if (toString e.natAbs).length < 2 then "0" ++ toString e.natAbs
      else toString e.natAbs).toList := by
    have hsize := (whole_decimal e.natAbs).digits
    split
    · rw [String.toList_append]
      exact digits_append (by simp) (List.forall_mem_singleton.2 rfl) hsize.2
    · exact hsize
  split
  · exact ⟨'e', ['-'], _, .inl rfl, .inr (.inr rfl), hdigits, rfl⟩
  · exact ⟨'e', ['+'], _, .inl rfl, .inr (.inl rfl), hdigits, rfl⟩

/-- A decimal is laid out as a number. Zero is laid out without an exponent of its own. -/
theorem unsigned_layOut {d : Nat} {g : Int} (h : d = 0 → g = 0) (l : Layout) :
    Unsigned (layOut l d g).toList := by
  have hwhole := whole_decimal d
  have hpos : d ≠ 0 → ∃ c rest, (toString d).toList = c :: rest ∧ c ≠ '0' ∧
      ∀ c' ∈ c :: rest, c'.isDigit = true := decimal_pos
  have hzero : d = 0 → (toString d).toList = ['0'] := by
    rintro rfl
    exact toList_decimal 0
  unfold layOut
  dsimp only
  generalize (toString d).toList = ds at hwhole hpos hzero
  split
  · split
    · -- All digits stand behind the point.
      rw [String.toList_append, show "0.".toList = ['0', '.'] from rfl, String.toList_ofList]
      generalize (-((ds.length : Int) + g)).toNat = k
      have hdigits : Digits (List.replicate k '0' ++ ds) :=
        digits_append (by simp [hwhole.digits.1]) (digits_zeros k) hwhole.digits.2
      exact unsigned_pointed (whole_digit rfl) hdigits
    · next hpoint =>
      split
      · -- All digits stand before the point.
        rw [String.toList_append, String.toList_ofList]
        refine unsigned_pointed ?_ ⟨List.cons_ne_nil '0' [], List.forall_mem_singleton.2 rfl⟩
        by_cases hd : d = 0
        · rw [hzero hd, h hd]
          exact whole_digit rfl
        · obtain ⟨c, rest, rfl, hc, hdigits⟩ := hpos hd
          exact whole_of_head hc (List.forall_mem_append.2 ⟨hdigits, digits_zeros _⟩)
      · next hlen =>
        rw [String.toList_ofList]
        have hd : d ≠ 0 := by
          intro hd
          rw [hzero hd, h hd] at hpoint hlen
          exact absurd hlen (by simp)
        obtain ⟨c, rest, rfl, hc, hdigits⟩ := hpos hd
        generalize hk : ((c :: rest).length + g).toNat = k at hpoint hlen ⊢
        obtain ⟨k, rfl⟩ := Nat.exists_eq_add_one_of_ne_zero (show k ≠ 0 by omega)
        refine unsigned_pointed ?_ ⟨?_, fun c' hc' => hdigits c' (List.mem_of_mem_drop hc')⟩
        · have htake : ∀ c' ∈ (c :: rest).take (k + 1), c'.isDigit = true :=
            fun c' hc' => hdigits c' (List.mem_of_mem_take hc')
          exact whole_of_head hc htake
        · simpa using hlen
  · -- An exponent follows the first digit and the others, if there are any.
    obtain ⟨c, rest, rfl, hc⟩ := hwhole.digits.head
    rw [String.append_assoc, String.toList_append, String.toList_append]
    have hexponent := exponent_layOut ((c :: rest).length + g - 1)
    cases rest with
    | nil =>
        have h := unsigned_scaled (whole_digit hc) (.inl rfl) hexponent
        simpa using h
    | cons c' rest =>
        have hrest : Digits (c' :: rest) :=
          ⟨List.cons_ne_nil c' rest, fun d hd => hwhole.digits.2 d (List.mem_cons_of_mem c hd)⟩
        have h := unsigned_scaled (whole_digit hc) (.inr ⟨_, hrest, rfl⟩) hexponent
        simpa using h

/-- Zero is below every interval of a positive number. -/
theorem has_zero (i : Interval) (hi : 0 < i.low.num) (g : Int) : i.has (decimal 0 g) = false := by
  have hnum : (decimal 0 g).num = 0 := by
    unfold decimal
    split
    · exact Nat.zero_mul _
    · rfl
  have hden : 0 < (decimal 0 g).den := by
    unfold decimal
    split
    · exact Nat.one_pos
    · exact Nat.pow_pos (by decide)
  have hlow : 0 < i.low.num * (decimal 0 g).den := Nat.mul_pos hi hden
  have hle : i.low.le (decimal 0 g) = false := by
    rw [Fraction.le, hnum, Nat.zero_mul]
    exact decide_eq_false (by omega)
  have hlt : i.low.lt (decimal 0 g) = false := by
    rw [Fraction.lt, hnum, Nat.zero_mul]
    exact decide_eq_false (by omega)
  rw [Interval.has, hle, hlt]
  split <;> rfl

theorem neighbour_pos {i : Interval} (hi : 0 < i.low.num) {x : Fraction} {g : Int} {d : Nat}
    (h : neighbour i x g = some d) : d ≠ 0 := by
  have hzero := has_zero i hi g
  unfold neighbour at h
  dsimp only at h
  generalize x.num * (decimal 1 g).den / (x.den * (decimal 1 g).num) = below at h
  have hbelow : i.has (decimal below g) = true → below ≠ 0 := by
    rintro hfits rfl
    rw [hzero] at hfits
    cases hfits
  split at h
  · next hfits =>
      have hne := hbelow (Bool.and_eq_true_iff.1 hfits).1
      cases h
      repeat' split
      all_goals omega
  split at h
  · next hfits =>
      cases h
      exact hbelow hfits
  split at h
  · cases h
    exact Nat.succ_ne_zero below
  · cases h

theorem search_zero {i : Interval} (hi : 0 < i.low.num) {x : Fraction} {k : Int} {grids : List Nat}
    (h : (search i x k grids).1 = 0) : search i x k grids = (0, 0) := by
  induction grids with
  | nil => rfl
  | cons n more ih =>
      rw [search] at h ⊢
      cases hd : neighbour i x (k - n) with
      | none =>
          rw [hd] at h
          exact ih h
      | some d =>
          rw [hd] at h
          exact absurd h (neighbour_pos hi hd)

theorem dropZeros_zero {fuel d : Nat} {g : Int} (h : (dropZeros fuel d g).1 = 0) :
    d = 0 ∧ dropZeros fuel d g = (d, g) := by
  induction fuel generalizing d g with
  | zero => exact ⟨h, rfl⟩
  | succ fuel ih =>
      rw [dropZeros] at h ⊢
      split at h
      · next hd =>
          obtain ⟨hdiv, _⟩ := ih h
          omega
      · next hd =>
          rw [if_neg hd]
          exact ⟨h, rfl⟩

/-- Zero digits come with no power of ten. -/
theorem digits_zero {m : Nat} (hm : m ≠ 0) {e : Int} (h : (digits m e).1 = 0) :
    (digits m e).2 = 0 := by
  have hlow : 0 < (interval m e).low.num := by
    have hbinary (n : Nat) (hn : 0 < n) (e : Int) : 0 < (binary n e).num := by
      unfold binary
      split
      · exact Nat.mul_pos hn (Nat.pow_pos (by decide))
      · exact hn
    unfold interval
    dsimp only
    split <;> exact hbinary _ (by omega) _
  unfold digits at h ⊢
  dsimp only at h ⊢
  obtain ⟨hd, heq⟩ := dropZeros_zero h
  rw [heq, search_zero hlow hd]

end Shortest

namespace Binary64

variable {x : Binary64}

/-- A finite number is written as a number. -/
theorem number_write (h : x.isFinite = true) : Number (x.write Shortest.json).toList := by
  cases x with
  | nan | infinite _ => cases h
  | finite negative m e =>
      have hbody : Unsigned (if m = 0 then "0.0" else Shortest.layOut Shortest.json
          (Shortest.digits m e).1 (Shortest.digits m e).2).toList := by
        split
        · exact unsigned_pointed (Decimal.whole_digit rfl) ⟨List.cons_ne_nil '0' [],
            List.forall_mem_singleton.2 rfl⟩
        · next hm => exact Shortest.unsigned_layOut (Shortest.digits_zero hm) _
      cases negative with
      | false => exact hbody [] (.inl rfl)
      | true =>
          have h := hbody ['-'] (.inr rfl)
          show Number ("-" ++ _).toList
          rw [String.toList_append]
          exact h

/-- The others are written as words, which the reader knows and the standard does not. -/
theorem word_write (h : x.isFinite = false) :
    x.write Shortest.json ∈ knownWords ∧ x.write Shortest.json ∉ standardWords := by
  cases x with
  | nan => decide
  | infinite negative => cases negative <;> decide
  | finite => cases h

end Binary64

namespace Literal

/-! ## What a literal stands for -/

/-- The text of a key. -/
def keyText : Value → String
  | .null => "null"
  | .bool b => if b then "true" else "false"
  | .int n => (Integer.write? n).getD ""
  | .float x => x.write Shortest.json
  | .str s => s
  | _ => ""

mutual

/-- The numbers in a value that stand for themselves, and are no keys. -/
def floats : Value → List Binary64
  | .float x => [x]
  | .list items | .tuple items => itemsFloats items
  | .map entries => entriesFloats entries
  | _ => []

/-- The numbers in the values. -/
def itemsFloats : List Value → List Binary64
  | [] => []
  | v :: vs => floats v ++ itemsFloats vs

/-- The numbers in the values of entries. -/
def entriesFloats : List (Value × Value) → List Binary64
  | [] => []
  | (_, v) :: es => floats v ++ entriesFloats es

end

mutual

/-- The texts of the keys of each mapping in a value. -/
def keyTexts : Value → List (List String)
  | .list items | .tuple items => itemsKeyTexts items
  | .map entries => entries.map (fun e => keyText e.1) :: entriesKeyTexts entries
  | _ => []

/-- The texts of the keys of each mapping in the values. -/
def itemsKeyTexts : List Value → List (List String)
  | [] => []
  | v :: vs => keyTexts v ++ itemsKeyTexts vs

/-- The texts of the keys of each mapping in the values of entries. -/
def entriesKeyTexts : List (Value × Value) → List (List String)
  | [] => []
  | (_, v) :: es => keyTexts v ++ entriesKeyTexts es

end

/-- What a number is written as: a number, or a word. -/
def floatTree (x : Binary64) : Tree :=
  if x.isFinite then .number else .word (x.write Shortest.json)

mutual

/-- The tree that the literal of a value stands for, if it has one. -/
def tree : Value → Tree
  | .null => .word "null"
  | .bool b => .word (if b then "true" else "false")
  | .int _ => .number
  | .float x => floatTree x
  | .str s => .string (units s)
  | .list items | .tuple items => .array (itemTrees items)
  | .map entries => .object (memberTrees entries)
  | _ => .word ""

/-- The trees of items. -/
def itemTrees : List Value → List Tree
  | [] => []
  | v :: vs => tree v :: itemTrees vs

/-- The trees of entries, each with its name. -/
def memberTrees : List (Value × Value) → List (Name × Tree)
  | [] => []
  | (k, v) :: es => (units (keyText k), tree v) :: memberTrees es

end

section Strings

variable {cs : List Char}

/-- A character that is written as it is stands for itself. -/
theorem chars_plain (h : ∀ c ∈ cs, c ≠ '"' ∧ c ≠ '\\' ∧ 0x20 ≤ c.toNat) :
    Chars cs (cs.flatMap codeUnits) := by
  induction cs with
  | nil => exact .nil
  | cons c cs ih =>
      rw [List.forall_mem_cons] at h
      obtain ⟨⟨hquote, hslash, hcontrol⟩, hcs⟩ := h
      exact .cons (.unescaped hquote hslash hcontrol) (ih hcs)

theorem chars_atom (h : ∀ c ∈ cs, isAtomChar c = true) : Chars cs (cs.flatMap codeUnits) := by
  have hcontrols : ∀ n < 0x20, isAtomChar (Char.ofNat n) = false := by decide
  refine chars_plain fun c hc => ⟨?_, ?_, ?_⟩
  · rintro rfl
    cases h _ hc
  · rintro rfl
    cases h _ hc
  · refine Nat.not_lt.1 fun hlt => ?_
    have hno := hcontrols c.toNat hlt
    rw [Char.ofNat_toNat, h c hc] at hno
    cases hno

theorem spelling_escapedChar (c : Char) : Spelling (Json.escapedChar c) (codeUnits c) := by
  have hshorts : ∀ e c, Json.shortEscape e = some c → codeUnits c = [c.toNat] := by
    intro e c h
    unfold Json.shortEscape at h
    split at h <;> cases h <;> decide
  rcases Json.escapedChar_cases c with ⟨hc, hquote, hslash, hcontrol⟩ | ⟨e, hc, _, hshort⟩ |
    ⟨ds, hc, hds, hcontrol⟩
  · rw [hc]
    exact .unescaped hquote hslash hcontrol
  · rw [hc, hshorts e c hshort]
    exact .short hshort
  · rw [hc, codeUnits, if_pos (by omega)]
    exact .code hds

theorem chars_escaped (cs : List Char) :
    Chars (cs.flatMap Json.escapedChar) (cs.flatMap codeUnits) := by
  induction cs with
  | nil => exact .nil
  | cons c cs ih => exact .cons (spelling_escapedChar c) ih

end Strings

variable {words : List String} {cs : List Char}

theorem number_integer {n : Int} (h : integer n = .ok cs) : Number cs := by
  obtain ⟨s, hs, rfl⟩ := integer_eq_ok.1 h
  have hnumber := @Number.mk (if n < 0 then ['-'] else []) _ [] [] (by split <;> simp)
    (whole_decimal n.natAbs) (.inl rfl) (.inl rfl)
  rw [(Integer.write_eq_ok.1 hs).2]
  simpa using hnumber

/-- A key is written as a string, whatever it is. -/
theorem chars_key {k : Value} (h : key k = .ok cs) :
    ∃ body, cs = '"' :: (body ++ ['"']) ∧ Chars body (units (keyText k)) := by
  cases k with
  | null =>
      cases h
      exact ⟨"null".toList, rfl, chars_atom (List.all_eq_true.1 rfl)⟩
  | bool b =>
      cases h
      cases b with
      | false => exact ⟨"false".toList, rfl, chars_atom (List.all_eq_true.1 rfl)⟩
      | true => exact ⟨"true".toList, rfl, chars_atom (List.all_eq_true.1 rfl)⟩
  | int n =>
      obtain ⟨digits, hdigits, h⟩ := bind_eq_ok.1 h
      cases h
      have hnumber := number_integer hdigits
      obtain ⟨s, hs, rfl⟩ := integer_eq_ok.1 hdigits
      have htext : keyText (.int n) = s := by
        unfold Integer.write at hs
        rw [keyText]
        cases hw : Integer.write? n with
        | none => rw [hw] at hs; cases hs
        | some t => rw [hw] at hs; cases hs; rfl
      rw [htext]
      exact ⟨s.toList, rfl, chars_atom hnumber.atomChars⟩
  | float x =>
      cases h
      refine ⟨_, rfl, chars_atom ?_⟩
      cases hx : x.isFinite with
      | true => exact (x.number_write hx).atomChars
      | false => exact (word_spelling (x.word_write hx).1).2
  | str s =>
      cases h
      exact ⟨_, rfl, chars_escaped s.toList⟩
  | bytes | date | time | list | tuple | set | map | cycle => cases h

theorem space_nil : Space [] := nofun

theorem space_blank : Space [' '] := List.forall_mem_singleton.2 rfl

theorem value_word {w : String} (hwords : ∀ w ∈ standardWords, w ∈ words) (hw : w ∈ standardWords) :
    Json.Grammar.Value words w.toList (.word w) := .atom (.word (hwords w hw))

theorem member_key {k : Value} {t : Tree} {name text : List Char} (hk : key k = .ok name)
    (h : Json.Grammar.Value words text t) :
    Member words (name ++ ':' :: ' ' :: text) (units (keyText k), t) := by
  obtain ⟨body, rfl, hbody⟩ := chars_key hk
  have hmember := Member.mk hbody space_nil space_blank h
  simpa using hmember

mutual

/-- The literal of a value is derived in the grammar, with the words that its numbers need. -/
theorem value_encode {v : Value} {cs : List Char} (hwords : ∀ w ∈ standardWords, w ∈ words)
    (hfloats : ∀ x ∈ floats v, Atom words (x.write Shortest.json).toList (floatTree x))
    (h : encode v = .ok cs) : Json.Grammar.Value words cs (tree v) := by
  match v with
  | .null =>
      cases h
      exact value_word hwords (by decide)
  | .bool b =>
      cases h
      cases b with
      | false => exact value_word hwords (by decide)
      | true => exact value_word hwords (by decide)
  | .int n => exact .atom (.number (number_integer h))
  | .float x =>
      cases h
      exact .atom (hfloats x List.mem_cons_self)
  | .str s =>
      cases h
      exact .string (chars_escaped s.toList)
  | .list [] | .tuple [] =>
      cases h
      exact .array (.none space_nil)
  | .list (v :: vs) | .tuple (v :: vs) =>
      obtain ⟨body, hbody, h⟩ := bind_eq_ok.1 h
      cases h
      exact .array (.some space_nil (items_encode (by simp) hwords hfloats hbody))
  | .map [] =>
      cases h
      exact .object (.none space_nil)
  | .map (e :: es) =>
      obtain ⟨body, hbody, h⟩ := bind_eq_ok.1 h
      cases h
      exact .object (.some space_nil (members_encode (by simp) hwords hfloats hbody))
  | .bytes _ | .date _ | .time _ | .set _ | .cycle => cases h

theorem items_encode {vs : List Value} {cs : List Char} (hne : vs ≠ [])
    (hwords : ∀ w ∈ standardWords, w ∈ words)
    (hfloats : ∀ x ∈ itemsFloats vs, Atom words (x.write Shortest.json).toList (floatTree x))
    (h : encodeItems vs = .ok cs) : Listed (Json.Grammar.Value words) cs (itemTrees vs) := by
  match vs with
  | [] => exact absurd rfl hne
  | [v] =>
      rw [itemsFloats, itemsFloats, List.append_nil] at hfloats
      have hlast := Listed.last (value_encode hwords hfloats h) space_nil
      rwa [List.append_nil] at hlast
  | v :: w :: vs =>
      rw [itemsFloats, List.forall_mem_append] at hfloats
      obtain ⟨head, hhead, h⟩ := bind_eq_ok.1 h
      obtain ⟨tail, htail, h⟩ := bind_eq_ok.1 h
      cases h
      exact .more (value_encode hwords hfloats.1 hhead) space_nil space_blank
        (items_encode (by simp) hwords hfloats.2 htail)

theorem members_encode {es : List (Value × Value)} {cs : List Char} (hne : es ≠ [])
    (hwords : ∀ w ∈ standardWords, w ∈ words)
    (hfloats : ∀ x ∈ entriesFloats es, Atom words (x.write Shortest.json).toList (floatTree x))
    (h : encodeEntries es = .ok cs) : Listed (Member words) cs (memberTrees es) := by
  match es with
  | [] => exact absurd rfl hne
  | [(k, v)] =>
      rw [entriesFloats, entriesFloats, List.append_nil] at hfloats
      obtain ⟨name, hname, h⟩ := bind_eq_ok.1 h
      obtain ⟨text, htext, h⟩ := bind_eq_ok.1 h
      cases h
      have hlast := Listed.last (member_key hname (value_encode hwords hfloats htext)) space_nil
      rwa [List.append_nil] at hlast
  | (k, v) :: e :: es =>
      rw [entriesFloats, List.forall_mem_append] at hfloats
      obtain ⟨name, hname, h⟩ := bind_eq_ok.1 h
      obtain ⟨text, htext, h⟩ := bind_eq_ok.1 h
      obtain ⟨tail, htail, h⟩ := bind_eq_ok.1 h
      cases h
      exact .more (member_key hname (value_encode hwords hfloats.1 htext)) space_nil space_blank
        (members_encode (by simp) hwords hfloats.2 htail)

end

mutual

/-- With the words of the standard alone only a finite number is derived. -/
theorem finite_of_value {v : Value} {cs : List Char}
    (h : Json.Grammar.Value standardWords cs (tree v)) : ∀ x ∈ floats v, x.isFinite = true := by
  match v with
  | .float x =>
      refine List.forall_mem_singleton.2 ?_
      cases hx : x.isFinite with
      | true => rfl
      | false =>
          rw [tree, floatTree, hx, if_neg Bool.false_ne_true] at h
          cases h with
          | atom hatom =>
          cases hatom with
          | word hw => exact absurd hw (x.word_write hx).2
  | .list items | .tuple items =>
      cases h with
      | atom hatom => cases hatom
      | array hitems => exact finite_of_items hitems.forall
  | .map entries =>
      cases h with
      | atom hatom => cases hatom
      | object hmembers => exact finite_of_members hmembers.forall
  | .null | .bool _ | .int _ | .str _ | .bytes _ | .date _ | .time _ | .set _ | .cycle =>
      exact nofun

theorem finite_of_items {vs : List Value}
    (h : ∀ t ∈ itemTrees vs, ∃ cs, Json.Grammar.Value standardWords cs t) :
    ∀ x ∈ itemsFloats vs, x.isFinite = true := by
  match vs with
  | [] => exact nofun
  | v :: vs =>
      rw [itemTrees, List.forall_mem_cons] at h
      obtain ⟨⟨cs, hv⟩, hvs⟩ := h
      exact List.forall_mem_append.2 ⟨finite_of_value hv, finite_of_items hvs⟩

theorem finite_of_members {es : List (Value × Value)}
    (h : ∀ m ∈ memberTrees es, ∃ cs, Member standardWords cs m) :
    ∀ x ∈ entriesFloats es, x.isFinite = true := by
  match es with
  | [] => exact nofun
  | (k, v) :: es =>
      rw [memberTrees, List.forall_mem_cons] at h
      obtain ⟨⟨cs, hmember⟩, hes⟩ := h
      cases hmember with
      | mk _ _ _ hv =>
      exact List.forall_mem_append.2 ⟨finite_of_value hv, finite_of_members hes⟩

end

theorem names_entries (es : List (Value × Value)) :
    (memberTrees es).map Prod.fst = es.map fun e => units (keyText e.1) := by
  induction es with
  | nil => rfl
  | cons e es ih =>
      obtain ⟨k, v⟩ := e
      rw [memberTrees, List.map_cons, List.map_cons, ih]

mutual

/-- The names in the tree are those that the keys are written as. -/
theorem names_tree (v : Value) : (tree v).names = (keyTexts v).map (·.map units) := by
  match v with
  | .list items | .tuple items => exact names_itemTrees items
  | .map entries =>
      rw [tree, Tree.names, keyTexts, List.map_cons, names_memberTrees, names_entries, List.map_map]
      rfl
  | .float x =>
      rw [tree, floatTree]
      split <;> rfl
  | .null | .bool _ | .int _ | .str _ | .bytes _ | .date _ | .time _ | .set _ | .cycle => rfl

theorem names_itemTrees (vs : List Value) :
    Tree.itemsNames (itemTrees vs) = (itemsKeyTexts vs).map (·.map units) := by
  match vs with
  | [] => rfl
  | v :: vs =>
      rw [itemTrees, Tree.itemsNames, itemsKeyTexts, List.map_append, names_tree v,
        names_itemTrees vs]

theorem names_memberTrees (es : List (Value × Value)) :
    Tree.membersNames (memberTrees es) = (entriesKeyTexts es).map (·.map units) := by
  match es with
  | [] => rfl
  | (k, v) :: es =>
      rw [memberTrees, Tree.membersNames, entriesKeyTexts, List.map_append, names_tree v,
        names_memberTrees es]

end

/-! ## The literal as a text -/

section Texts

variable {v : Value} {text : String}

theorem text_write (hwords : ∀ w ∈ standardWords, w ∈ words)
    (hfloats : ∀ x ∈ floats v, Atom words (x.write Shortest.json).toList (floatTree x))
    (h : write v = .ok text) : Json.Grammar.Text words text.toList (tree v) := by
  obtain ⟨cs, hcs, rfl⟩ := map_eq_ok.1 h
  have htext := Text.mk space_nil (value_encode hwords hfloats hcs) space_nil
  rwa [List.nil_append, List.append_nil, ← @String.toList_ofList cs] at htext

theorem standard_known : ∀ w ∈ standardWords, w ∈ knownWords := by decide

/-- With the words that the reader knows, every literal is a text. -/
theorem text_known (h : write v = .ok text) :
    Json.Grammar.Text knownWords text.toList (tree v) := by
  refine text_write standard_known (fun x _ => ?_) h
  rw [floatTree]
  cases hx : x.isFinite with
  | true => exact .number (x.number_write hx)
  | false => exact .word (x.word_write hx).1

theorem text_standard (h : write v = .ok text) (hv : ∀ x ∈ floats v, x.isFinite = true) :
    Json.Grammar.Text standardWords text.toList (tree v) := by
  refine text_write (fun _ hw => hw) (fun x hx => ?_) h
  rw [floatTree, hv x hx]
  exact .number (x.number_write (hv x hx))

/-- A literal that is a text of the standard stands for its one tree, and its numbers are finite. -/
theorem tree_of_standard {t : Tree} (h : write v = .ok text)
    (ht : Json.Grammar.Text standardWords text.toList t) :
    t = tree v ∧ ∀ x ∈ floats v, x.isFinite = true := by
  have heq := Text.unique standard_known (fun _ hw => hw) ht (text_known h)
  subst heq
  generalize text.toList = cs at ht
  cases ht with
  | mk _ hvalue _ => exact ⟨rfl, finite_of_value hvalue⟩

theorem standard_iff (h : write v = .ok text) :
    Standard text ↔ ∀ x ∈ floats v, x.isFinite = true :=
  ⟨fun ⟨_, ht⟩ => (tree_of_standard h ht).2, fun hv => ⟨tree v, text_standard h hv⟩⟩

theorem standardDistinct_iff (h : write v = .ok text) :
    StandardDistinct text ↔
      (∀ x ∈ floats v, x.isFinite = true) ∧ ∀ keys ∈ keyTexts v, keys.Nodup := by
  have hnodup : (∀ names ∈ (tree v).names, names.Nodup) ↔ ∀ keys ∈ keyTexts v, keys.Nodup := by
    have hkeys (keys : List String) : (keys.map units).Nodup ↔ keys.Nodup :=
      ⟨List.Nodup.of_map units, List.Nodup.map fun _ _ => units_inj.1⟩
    rw [names_tree, List.forall_mem_map]
    simp only [hkeys]
  rw [← hnodup]
  constructor
  · rintro ⟨t, ht, hnames⟩
    obtain ⟨rfl, hv⟩ := tree_of_standard h ht
    exact ⟨hv, hnames⟩
  · rintro ⟨hv, hnames⟩
    exact ⟨tree v, text_standard h hv, hnames⟩

/-- A literal is a JSON text exactly if the numbers in it are finite, and one in which no object
has two members of the same name exactly if besides no two keys of a mapping have the same
text. -/
theorem write_standard (h : write v = .ok text) :
    (Standard text ↔ ∀ x ∈ floats v, x.isFinite = true) ∧
    (StandardDistinct text ↔
      (∀ x ∈ floats v, x.isFinite = true) ∧ ∀ keys ∈ keyTexts v, keys.Nodup) :=
  ⟨standard_iff h, standardDistinct_iff h⟩

/-- Keys of all sorts, each with a text of its own. -/
theorem write_standard_keys :
    let v : Value := .map [(.int 1, .float .one), (.null, .list [.str "é"]), (.str "2", .int 2)]
    let text := "\x7b\"1\": 1.0, \"null\": [\"é\"], \"2\": 2\x7d"
    write v = .ok text ∧ StandardDistinct text := by
  intro v text
  have htext : write v = .ok text := by decide +kernel
  exact ⟨htext, (write_standard htext).2.2 (by decide +kernel)⟩

/-- Conditions that a rule document can hold: infinity, and keys that are written alike. -/
theorem loaded_literals_not_standard :
    let infinite := "\x7bpath: a, operator: equals, value: .inf\x7d"
    let alike := "\x7bpath: b, operator: equals, value: \x7b1: a, '1': b\x7d\x7d"
    let text := "rules: [\x7bname: a, match: \x7bkind: A\x7d, conditions: [" ++ infinite ++ ", " ++
      alike ++ "], message: m\x7d]"
    (∃ rules, RuleSet.parse "<string>" text = .ok rules ∧
      rules.rules.flatMap (fun r => r.conditions.map fun c => write c.value) =
        [.ok "Infinity", .ok "\x7b\"1\": \"a\", \"1\": \"b\"\x7d"]) ∧
    ¬ Standard "Infinity" ∧ ¬ StandardDistinct "\x7b\"1\": \"a\", \"1\": \"b\"\x7d" := by
  refine ⟨by decide +kernel, fun h => ?_, fun h => ?_⟩
  · have hwrite : write (.float (.infinite false)) = .ok "Infinity" := by decide +kernel
    exact absurd ((standard_iff hwrite).1 h) (by decide)
  · have hwrite : write (.map [(.int 1, .str "a"), (.str "1", .str "b")]) =
        .ok "\x7b\"1\": \"a\", \"1\": \"b\"\x7d" := by decide +kernel
    exact absurd ((standardDistinct_iff hwrite).1 h).2 (by decide +kernel)

end Texts

end Literal

end ManifestPolicy
