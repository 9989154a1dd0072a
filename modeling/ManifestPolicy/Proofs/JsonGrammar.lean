import ManifestPolicy.Proofs.DecimalText
import ManifestPolicy.Proofs.JsonStrings

/-!
# The grammar of JSON

RFC 8259 gives JSON as a grammar. Here it is, each rule as it stands there, but
for the words that are values: the standard has three, readers know some more,
and so the grammar is taken with a list of them. A derivation comes with the
tree that the text stands for. In it strings and the names of members are
sequences of UTF-16 code units, for this is what escapes denote and how names
are compared.

The grammar is unambiguous (`Text.unique`): a text has one tree, also with two
lists of words. This is shown for the front of a text, where a value ends and
what follows does not go on with it (`Ends`), by induction on the length of the
value.
-/

namespace ManifestPolicy.Json.Grammar

/-! ## The rules -/

/-- Blanks. -/
def Space (cs : List Char) : Prop := ∀ c ∈ cs, isSpace c = true

/-- A sequence of UTF-16 code units. -/
abbrev Name := List Nat

/-- The code units of a character: one, or a pair of surrogates. -/
def codeUnits (c : Char) : Name :=
  if c.toNat < 0x10000 then [c.toNat]
  else [0xd800 + (c.toNat - 0x10000) / 0x400, 0xdc00 + (c.toNat - 0x10000) % 0x400]

/-- How a character stands in a string: for itself, with a short escape, or as a code unit. -/
inductive Spelling : List Char → Name → Prop
  | unescaped {c : Char} : c ≠ '"' → c ≠ '\\' → 0x20 ≤ c.toNat → Spelling [c] (codeUnits c)
  | short {e c : Char} : shortEscape e = some c → Spelling ['\\', e] [c.toNat]
  | code {ds : List Char} {n : Nat} : hex4 ds = some (n, []) → Spelling ('\\' :: 'u' :: ds) [n]

/-- What stands between the quotes of a string. -/
inductive Chars : List Char → Name → Prop
  | nil : Chars [] []
  | cons {a b : List Char} {us vs : Name} : Spelling a us → Chars b vs → Chars (a ++ b) (us ++ vs)

/-- A fraction: a point and at least one digit. -/
def Fraction (cs : List Char) : Prop := ∃ ds, Digits ds ∧ cs = '.' :: ds

/-- An exponent: a letter, perhaps a sign, and at least one digit. -/
def Exponent (cs : List Char) : Prop :=
  ∃ e sign ds, (e = 'e' ∨ e = 'E') ∧ (sign = [] ∨ sign = ['+'] ∨ sign = ['-']) ∧ Digits ds ∧
    cs = e :: (sign ++ ds)

/-- A number: perhaps a minus, digits without needless zeros, and perhaps a fraction and an
exponent. -/
inductive Number : List Char → Prop
  | mk {sign whole fraction exponent : List Char} : sign = [] ∨ sign = ['-'] →
      Decimal.Whole whole → fraction = [] ∨ Fraction fraction →
      exponent = [] ∨ Exponent exponent → Number (sign ++ (whole ++ (fraction ++ exponent)))

/-- What a text stands for; of a number only that it is one. -/
inductive Tree where
  | word (w : String)
  | number
  | string (units : Name)
  | array (items : List Tree)
  | object (members : List (Name × Tree))

/-- Items with commas between them, and blanks around these. -/
inductive Listed {α : Type} (item : List Char → α → Prop) : List Char → List α → Prop
  | last {cs sp : List Char} {a : α} : item cs a → Space sp → Listed item (cs ++ sp) [a]
  | more {cs sp sp' ds : List Char} {a : α} {as : List α} : item cs a → Space sp → Space sp' →
      Listed item ds as → Listed item (cs ++ (sp ++ ',' :: (sp' ++ ds))) (a :: as)

/-- What stands between brackets: blanks, or items. -/
inductive Items {α : Type} (item : List Char → α → Prop) : List Char → List α → Prop
  | none {sp : List Char} : Space sp → Items item sp []
  | some {sp cs : List Char} {as : List α} : Space sp → Listed item cs as → Items item (sp ++ cs) as

/-- A value without quotes or brackets: a word or a number. -/
inductive Atom (words : List String) : List Char → Tree → Prop
  | word {w : String} : w ∈ words → Atom words w.toList (.word w)
  | number {cs : List Char} : Number cs → Atom words cs .number

mutual

/-- A value. -/
inductive Value (words : List String) : List Char → Tree → Prop
  | atom {cs : List Char} {t : Tree} : Atom words cs t → Value words cs t
  | string {cs : List Char} {us : Name} : Chars cs us →
      Value words ('"' :: (cs ++ ['"'])) (.string us)
  | array {cs : List Char} {ts : List Tree} : Items (Value words) cs ts →
      Value words ('[' :: (cs ++ [']'])) (.array ts)
  | object {cs : List Char} {ms : List (Name × Tree)} : Items (Member words) cs ms →
      Value words ('\x7b' :: (cs ++ ['\x7d'])) (.object ms)

/-- A member: its name, a colon with blanks around it, and its value. -/
inductive Member (words : List String) : List Char → Name × Tree → Prop
  | mk {name sp sp' cs : List Char} {us : Name} {t : Tree} : Chars name us → Space sp →
      Space sp' → Value words cs t →
      Member words ('"' :: (name ++ '"' :: (sp ++ ':' :: (sp' ++ cs)))) (us, t)

end

/-- A text: a value with blanks around it. -/
inductive Text (words : List String) : List Char → Tree → Prop
  | mk {sp cs sp' : List Char} {t : Tree} : Space sp → Value words cs t → Space sp' →
      Text words (sp ++ (cs ++ sp')) t

/-- The words of the standard. -/
def standardWords : List String := ["null", "true", "false"]

/-- The words that the reader knows. -/
def knownWords : List String := words.map Prod.fst

mutual

/-- The names of the members of each object in a tree. -/
def Tree.names : Tree → List (List Name)
  | .array items => Tree.itemsNames items
  | .object members => members.map Prod.fst :: Tree.membersNames members
  | _ => []

/-- The names of the members of each object in the trees. -/
def Tree.itemsNames : List Tree → List (List Name)
  | [] => []
  | t :: ts => t.names ++ Tree.itemsNames ts

/-- The names of the members of each object in the values of members. -/
def Tree.membersNames : List (Name × Tree) → List (List Name)
  | [] => []
  | (_, t) :: ms => t.names ++ Tree.membersNames ms

end

/-- A text of the standard. -/
def Standard (text : String) : Prop := ∃ t, Text standardWords text.toList t

/-- A text of the standard in which no object has two members with the same name. -/
def StandardDistinct (text : String) : Prop :=
  ∃ t, Text standardWords text.toList t ∧ ∀ names ∈ t.names, names.Nodup

/-! ## Where a piece of a text ends -/

section Pieces

variable {a b x y cs : List Char} {p : Char → Bool} {c : Char}

/-- Where characters of a sort end is plain from the text. -/
theorem span_unique (ha : ∀ c ∈ a, p c = true) (hb : ∀ c ∈ b, p c = true)
    (hx : ∀ c ∈ x.head?, p c = false) (hy : ∀ c ∈ y.head?, p c = false)
    (h : a ++ x = b ++ y) : a = b ∧ x = y := by
  have htake {a x : List Char} (ha : ∀ c ∈ a, p c = true) (hx : ∀ c ∈ x.head?, p c = false) :
      (a ++ x).takeWhile p = a := by
    rw [List.takeWhile_append_of_pos ha]
    cases x with
    | nil => exact List.append_nil a
    | cons c x =>
        rw [List.takeWhile_cons_of_neg (by simp [hx c rfl])]
        exact List.append_nil a
  have hab : a = b := by rw [← htake ha hx, h, htake hb hy]
  subst hab
  exact ⟨rfl, List.append_cancel_left h⟩

/-- What follows does not go on with a value. -/
def Ends (tail : List Char) : Prop :=
  ∀ c ∈ tail.head?, isSpace c = true ∨ c = ',' ∨ c = ']' ∨ c = '\x7d'

theorem ends_cons (h : isSpace c = true ∨ c = ',' ∨ c = ']' ∨ c = '\x7d') : Ends (c :: x) := by
  rintro d ⟨⟩
  exact h

theorem ends_space (ha : Space a) (hx : Ends x) : Ends (a ++ x) := by
  cases a with
  | nil => exact hx
  | cons c a => exact ends_cons (.inl (ha c List.mem_cons_self))

theorem Space.ends (ha : Space a) : Ends a := by
  have h := ends_space ha (x := []) nofun
  rwa [List.append_nil] at h

/-- A piece begins with a character that is neither a blank nor closes anything. -/
def Solid (cs : List Char) : Prop :=
  ∃ c rest, cs = c :: rest ∧ isSpace c = false ∧ c ≠ ']' ∧ c ≠ '\x7d'

theorem Solid.head (h : Solid a) : ∀ c ∈ (a ++ x).head?, isSpace c = false := by
  obtain ⟨c, rest, rfl, hc, _⟩ := h
  rintro d ⟨⟩
  exact hc

theorem noSpace_cons (h : isSpace c = false) : ∀ d ∈ (c :: x).head?, isSpace d = false := by
  rintro d ⟨⟩
  exact h

end Pieces

/-! ## Strings -/

section Strings

variable {a b x y : List Char} {us vs : Name}

theorem Spelling.head (h : Spelling a us) : ∃ c rest, a = c :: rest ∧ c ≠ '"' := by
  cases h with
  | unescaped hquote _ _ => exact ⟨_, _, rfl, hquote⟩
  | short _ => exact ⟨_, _, rfl, by decide⟩
  | code _ => exact ⟨_, _, rfl, by decide⟩

theorem Spelling.unique (ha : Spelling a us) (hb : Spelling b vs) (h : a ++ x = b ++ y) :
    a = b ∧ us = vs := by
  cases ha with
  | unescaped _ hslash _ =>
      cases hb with
      | unescaped => cases h; exact ⟨rfl, rfl⟩
      | short | code => cases h; exact absurd rfl hslash
  | short he =>
      cases hb with
      | unescaped _ hslash _ => cases h; exact absurd rfl hslash
      | short he' =>
          cases h
          rw [he] at he'
          cases he'
          exact ⟨rfl, rfl⟩
      | code => cases h; cases he
  | @code ds n hds =>
      cases hb with
      | unescaped _ hslash _ => cases h; exact absurd rfl hslash
      | short he => cases h; cases he
      | @code es m hes =>
          have htail : ds ++ x = es ++ y := (List.cons.inj (List.cons.inj h).2).2
          have hsame : hex4 (ds ++ x) = hex4 (es ++ y) := by rw [htail]
          rw [hex4_append hds, hex4_append hes] at hsame
          cases hsame
          rw [List.append_cancel_right htail]
          exact ⟨rfl, rfl⟩

/-- A string ends at the first quote that is no part of an escape. -/
theorem Chars.unique (ha : Chars a us) (hb : Chars b vs) (h : a ++ '"' :: x = b ++ '"' :: y) :
    a = b ∧ us = vs := by
  induction ha generalizing b vs with
  | nil =>
      cases hb with
      | nil => exact ⟨rfl, rfl⟩
      | cons hs _ =>
          obtain ⟨c, rest, rfl, hc⟩ := hs.head
          exact absurd (List.cons.inj h).1.symm hc
  | cons hs _ ih =>
      cases hb with
      | nil =>
          obtain ⟨c, rest, rfl, hc⟩ := hs.head
          exact absurd (List.cons.inj h).1 hc
      | cons hs' hb =>
          rw [List.append_assoc, List.append_assoc] at h
          obtain ⟨rfl, rfl⟩ := hs.unique hs' h
          obtain ⟨rfl, rfl⟩ := ih hb (List.append_cancel_left h)
          exact ⟨rfl, rfl⟩

end Strings

/-- The code units of a character are told from what follows them. -/
theorem codeUnits_append {c d : Char} {us vs : Name} (h : codeUnits c ++ us = codeUnits d ++ vs) :
    c = d ∧ us = vs := by
  have hvalid (c : Char) : c.toNat < 0xd800 ∨ 0xdfff < c.toNat ∧ c.toNat < 0x110000 := c.valid
  have hc := hvalid c
  have hd := hvalid d
  have hcode (h : c.toNat = d.toNat) : c = d := Char.ext (UInt32.toNat_inj.1 h)
  unfold codeUnits at h
  split at h
  · split at h
    · obtain ⟨hunit, hrest⟩ := List.cons.inj h
      exact ⟨hcode hunit, hrest⟩
    · have hunit := (List.cons.inj h).1
      omega
  · split at h
    · have hunit := (List.cons.inj h).1
      omega
    · obtain ⟨hhigh, h⟩ := List.cons.inj h
      obtain ⟨hlow, hrest⟩ := List.cons.inj h
      exact ⟨hcode (by omega), hrest⟩

/-- The code units of a string. -/
def units (s : String) : Name := s.toList.flatMap codeUnits

/-- Different strings have different code units. -/
theorem units_inj {s t : String} : units s = units t ↔ s = t := by
  have hlist : ∀ cs ds : List Char, cs.flatMap codeUnits = ds.flatMap codeUnits → cs = ds := by
    have hne (c : Char) : codeUnits c ≠ [] := by
      unfold codeUnits
      split <;> exact List.cons_ne_nil _ _
    intro cs
    induction cs with
    | nil =>
        intro ds h
        cases ds with
        | nil => rfl
        | cons d ds => exact absurd (List.append_eq_nil_iff.1 h.symm).1 (hne d)
    | cons c cs ih =>
        intro ds h
        cases ds with
        | nil => exact absurd (List.append_eq_nil_iff.1 h).1 (hne c)
        | cons d ds =>
            obtain ⟨rfl, hrest⟩ := codeUnits_append h
            rw [ih ds hrest]
  exact ⟨fun h => String.toList_inj.1 (hlist _ _ h), fun h => by rw [h]⟩

/-! ## Words and numbers -/

section Atoms

variable {a b x y : List Char} {c : Char} {w : String}

/-- A character of which words and numbers consist. -/
def isAtomChar (c : Char) : Bool := c.isAlphanum || c == '-' || c == '+' || c == '.'

theorem isAtomChar_of_isDigit (h : c.isDigit = true) : isAtomChar c = true := by
  simp [isAtomChar, Char.isAlphanum, h]

theorem Ends.noAtomChar (h : Ends x) : ∀ c ∈ x.head?, isAtomChar c = false := by
  intro c hc
  have hends := h c hc
  simp only [isSpace, Bool.or_eq_true, beq_iff_eq] at hends
  rcases hends with (((rfl | rfl) | rfl) | rfl) | rfl | rfl | rfl <;> decide

theorem solid_of_atomChars (ha : a ≠ []) (h : ∀ c ∈ a, isAtomChar c = true) : Solid a := by
  obtain ⟨c, rest, rfl⟩ := List.exists_cons_of_ne_nil ha
  have hc := h c List.mem_cons_self
  refine ⟨c, rest, rfl, ?_, ?_, ?_⟩
  · cases hs : isSpace c with
    | false => rfl
    | true => rw [(@ends_cons rest c (.inl hs)).noAtomChar c rfl] at hc; cases hc
  · rintro rfl
    cases hc
  · rintro rfl
    cases hc

theorem word_spelling (h : w ∈ knownWords) :
    w.toList ≠ [] ∧ ∀ c ∈ w.toList, isAtomChar c = true := by
  simp only [knownWords, words, List.map_cons, List.map_nil, List.mem_cons, List.not_mem_nil,
    or_false] at h
  rcases h with rfl | rfl | rfl | rfl | rfl | rfl <;>
    exact ⟨by decide, List.all_eq_true.1 (by decide)⟩

theorem Number.numeral (h : Number a) : Numeral a := by
  cases h with
  | mk hsign hwhole _ _ =>
      obtain ⟨d, rest, rfl, hd⟩ := hwhole.digits.head
      exact ⟨_, d, _, rfl, hsign, hd⟩

theorem Number.ne_nil (h : Number a) : a ≠ [] := by
  obtain ⟨c, rest, rfl, _⟩ := h.numeral.opens
  exact List.cons_ne_nil c rest

theorem Number.atomChars (h : Number a) : ∀ c ∈ a, isAtomChar c = true := by
  have hdigits {ds : List Char} (hds : Digits ds) : ∀ c ∈ ds, isAtomChar c = true :=
    fun c hc => isAtomChar_of_isDigit (hds.2 c hc)
  cases h with
  | mk hsign hwhole hfraction hexponent =>
      simp only [List.forall_mem_append]
      refine ⟨?_, hdigits hwhole.digits, ?_, ?_⟩
      · rcases hsign with rfl | rfl <;> exact List.all_eq_true.1 (by decide)
      · rcases hfraction with rfl | ⟨ds, hds, rfl⟩
        · exact nofun
        · exact List.forall_mem_cons.2 ⟨by decide, hdigits hds⟩
      · rcases hexponent with rfl | ⟨e, sign, ds, he, hsign, hds, rfl⟩
        · exact nofun
        · refine List.forall_mem_cons.2 ⟨?_, List.forall_mem_append.2 ⟨?_, hdigits hds⟩⟩
          · rcases he with rfl | rfl <;> decide
          · rcases hsign with rfl | rfl | rfl <;> exact List.all_eq_true.1 (by decide)

/-- A word is no number. -/
theorem Number.ne_word (h : Number a) (hw : w ∈ knownWords) : a ≠ w.toList := by
  rintro rfl
  obtain ⟨p, hp, rfl⟩ := List.mem_map.1 hw
  have hnone := named?_numeral h.numeral []
  rw [named?_word hp] at hnone
  cases hnone

variable {words words' : List String} {s t : Tree}

theorem Atom.atomChars (hwords : ∀ w ∈ words, w ∈ knownWords) (h : Atom words a t) :
    a ≠ [] ∧ ∀ c ∈ a, isAtomChar c = true := by
  cases h with
  | word hw => exact word_spelling (hwords _ hw)
  | number hnumber => exact ⟨hnumber.ne_nil, hnumber.atomChars⟩

/-- Words and numbers end where their characters end. -/
theorem Atom.agree (hwords : ∀ w ∈ words, w ∈ knownWords) (hwords' : ∀ w ∈ words', w ∈ knownWords)
    (ha : Atom words a s) (hb : Atom words' b t) (hx : Ends x) (hy : Ends y)
    (h : a ++ x = b ++ y) : a = b ∧ s = t := by
  have hab : a = b := (span_unique (ha.atomChars hwords).2 (hb.atomChars hwords').2
    hx.noAtomChar hy.noAtomChar h).1
  refine ⟨hab, ?_⟩
  cases ha with
  | word hw =>
      cases hb with
      | word hw' => rw [String.toList_inj.1 hab]
      | number hnumber => exact absurd hab.symm (hnumber.ne_word (hwords _ hw))
  | number hnumber =>
      cases hb with
      | word hw' => exact absurd hab (hnumber.ne_word (hwords' _ hw'))
      | number _ => rfl

theorem Atom.append_ne (hwords : ∀ w ∈ words, w ∈ knownWords) (h : Atom words a t)
    (hc : isAtomChar c = false) : a ++ x ≠ c :: y := by
  obtain ⟨hne, hchars⟩ := h.atomChars hwords
  obtain ⟨d, rest, rfl⟩ := List.exists_cons_of_ne_nil hne
  intro heq
  rw [← (List.cons.inj heq).1, hchars d List.mem_cons_self] at hc
  cases hc

end Atoms

/-! ## Collections -/

/-- Of two texts that go on alike, pieces of up to this length that end there are the same, and
stand for the same. -/
def Agree {α : Type} (item item' : List Char → α → Prop) (n : Nat) : Prop :=
  ∀ a b s t x y, a.length ≤ n → item a s → item' b t → Ends x → Ends y → a ++ x = b ++ y →
    a = b ∧ s = t

section Collections

variable {α : Type} {item item' : List Char → α → Prop} {n : Nat} {a b x y : List Char}
  {s t : List α} {close : Char}

theorem Listed.solid (hitem : ∀ cs a, item cs a → Solid cs) (h : Listed item a s) : Solid a := by
  cases h with
  | last hcs _ | more hcs _ _ _ =>
      obtain ⟨c, rest, rfl, hc⟩ := hitem _ _ hcs
      exact ⟨c, _, rfl, hc⟩

theorem Listed.agree (hagree : Agree item item' n) (hitem : ∀ cs a, item cs a → Solid cs)
    (hitem' : ∀ cs a, item' cs a → Solid cs) (hclose : close = ']' ∨ close = '\x7d')
    (hlen : a.length ≤ n) (ha : Listed item a s) (hb : Listed item' b t)
    (h : a ++ close :: x = b ++ close :: y) : a = b ∧ s = t := by
  have hspace : isSpace close = false := by rcases hclose with rfl | rfl <;> decide
  have hcomma : close ≠ ',' := by rcases hclose with rfl | rfl <;> decide
  have hends (tail : List Char) : Ends (close :: tail) := ends_cons (.inr (.inr hclose))
  have hcommaEnds (tail : List Char) : Ends (',' :: tail) := ends_cons (.inr (.inl rfl))
  induction ha generalizing b t with
  | last hcs hsp =>
      rw [List.length_append] at hlen
      cases hb with
      | last hds hsp' =>
          rw [List.append_assoc, List.append_assoc] at h
          obtain ⟨rfl, rfl⟩ := hagree _ _ _ _ _ _ (by omega) hcs hds (ends_space hsp (hends x))
            (ends_space hsp' (hends y)) h
          obtain ⟨rfl, _⟩ := span_unique hsp hsp' (noSpace_cons hspace) (noSpace_cons hspace)
            (List.append_cancel_left h)
          exact ⟨rfl, rfl⟩
      | more hds hsp' _ _ =>
          rw [List.append_assoc, List.append_assoc, List.append_assoc] at h
          obtain ⟨rfl, rfl⟩ := hagree _ _ _ _ _ _ (by omega) hcs hds (ends_space hsp (hends x))
            (ends_space hsp' (hcommaEnds _)) h
          obtain ⟨_, hrest⟩ := span_unique hsp hsp' (noSpace_cons hspace)
            (noSpace_cons (by decide)) (List.append_cancel_left h)
          exact absurd (List.cons.inj hrest).1 hcomma
  | more hcs hsp hmore hlisted ih =>
      simp only [List.length_append, List.length_cons] at hlen
      cases hb with
      | last hds hsp' =>
          rw [List.append_assoc, List.append_assoc, List.append_assoc] at h
          obtain ⟨rfl, rfl⟩ := hagree _ _ _ _ _ _ (by omega) hcs hds
            (ends_space hsp (hcommaEnds _)) (ends_space hsp' (hends y)) h
          obtain ⟨_, hrest⟩ := span_unique hsp hsp' (noSpace_cons (by decide))
            (noSpace_cons hspace) (List.append_cancel_left h)
          exact absurd (List.cons.inj hrest).1.symm hcomma
      | more hds hsp' hmore' hlisted' =>
          simp only [List.append_assoc, List.cons_append] at h
          obtain ⟨rfl, rfl⟩ := hagree _ _ _ _ _ _ (by omega) hcs hds
            (ends_space hsp (hcommaEnds _)) (ends_space hsp' (hcommaEnds _)) h
          obtain ⟨rfl, hrest⟩ := span_unique hsp hsp' (noSpace_cons (by decide))
            (noSpace_cons (by decide)) (List.append_cancel_left h)
          obtain ⟨rfl, hothers⟩ := span_unique hmore hmore' (hlisted.solid hitem).head
            (hlisted'.solid hitem').head (List.cons.inj hrest).2
          obtain ⟨rfl, rfl⟩ := ih (by omega) hlisted' hothers
          exact ⟨rfl, rfl⟩

theorem Items.agree (hagree : Agree item item' n) (hitem : ∀ cs a, item cs a → Solid cs)
    (hitem' : ∀ cs a, item' cs a → Solid cs) (hclose : close = ']' ∨ close = '\x7d')
    (hlen : a.length ≤ n) (ha : Items item a s) (hb : Items item' b t)
    (h : a ++ close :: x = b ++ close :: y) : a = b ∧ s = t := by
  have hspace (tail : List Char) : ∀ c ∈ (close :: tail).head?, isSpace c = false :=
    noSpace_cons (by rcases hclose with rfl | rfl <;> decide)
  -- What is solid does not begin where the collection ends.
  have hopen {cs tail tail' : List Char} (hcs : Solid cs) : close :: tail ≠ cs ++ tail' := by
    obtain ⟨c, rest, rfl, _, hbracket, hbrace⟩ := hcs
    intro heq
    rw [← (List.cons.inj heq).1] at hbracket hbrace
    rcases hclose with rfl | rfl
    · exact hbracket rfl
    · exact hbrace rfl
  cases ha with
  | none hsp =>
      cases hb with
      | none hsp' =>
          obtain ⟨rfl, _⟩ := span_unique hsp hsp' (hspace x) (hspace y) h
          exact ⟨rfl, rfl⟩
      | some hsp' hlisted' =>
          have hsolid := hlisted'.solid hitem'
          rw [List.append_assoc] at h
          exact absurd (span_unique hsp hsp' (hspace x) hsolid.head h).2 (hopen hsolid)
  | some hsp hlisted =>
      have hsolid := hlisted.solid hitem
      rw [List.append_assoc] at h
      rw [List.length_append] at hlen
      cases hb with
      | none hsp' =>
          exact absurd (span_unique hsp hsp' hsolid.head (hspace y) h).2.symm (hopen hsolid)
      | some hsp' hlisted' =>
          rw [List.append_assoc] at h
          obtain ⟨rfl, hrest⟩ := span_unique hsp hsp' hsolid.head (hlisted'.solid hitem').head h
          obtain ⟨rfl, rfl⟩ := hlisted.agree hagree hitem hitem' hclose (by omega) hlisted' hrest
          exact ⟨rfl, rfl⟩

/-- Each item of a list was derived from a piece of its own. -/
theorem Listed.forall (h : Listed item a s) : ∀ r ∈ s, ∃ cs, item cs r := by
  induction h with
  | last hcs _ => exact List.forall_mem_singleton.2 ⟨_, hcs⟩
  | more hcs _ _ _ ih => exact List.forall_mem_cons.2 ⟨⟨_, hcs⟩, ih⟩

theorem Items.forall (h : Items item a s) : ∀ r ∈ s, ∃ cs, item cs r := by
  cases h with
  | none _ => exact nofun
  | some _ hlisted => exact hlisted.forall

end Collections

/-! ## Values -/

section Values

variable {words words' : List String} {n : Nat} {a b x y cs ds : List Char} {s t : Tree}

theorem Value.solid (hwords : ∀ w ∈ words, w ∈ knownWords) (h : Value words cs t) : Solid cs := by
  cases h with
  | atom hatom =>
      obtain ⟨hne, hchars⟩ := hatom.atomChars hwords
      exact solid_of_atomChars hne hchars
  | string _ | array _ | object _ => exact ⟨_, _, rfl, by decide, by decide, by decide⟩

theorem Member.solid {m : Name × Tree} (h : Member words cs m) : Solid cs := by
  cases h with
  | mk _ _ _ _ => exact ⟨_, _, rfl, by decide, by decide, by decide⟩

theorem Member.agree (hwords : ∀ w ∈ words, w ∈ knownWords)
    (hwords' : ∀ w ∈ words', w ∈ knownWords) (hagree : Agree (Value words) (Value words') n) :
    Agree (Member words) (Member words') n := by
  intro a b s t x y hlen ha hb hx hy h
  cases ha with
  | mk hname hsp hvalue hcs =>
  cases hb with
  | mk hname' hsp' hvalue' hcs' =>
  simp only [List.length_cons, List.length_append] at hlen
  simp only [List.cons_append, List.append_assoc] at h
  have h := (List.cons.inj h).2
  obtain ⟨rfl, rfl⟩ := hname.unique hname' h
  obtain ⟨rfl, hcolon⟩ := span_unique hsp hsp' (noSpace_cons (by decide))
    (noSpace_cons (by decide)) (List.cons.inj (List.append_cancel_left h)).2
  obtain ⟨rfl, hrest⟩ := span_unique hvalue hvalue' (hcs.solid hwords).head
    (hcs'.solid hwords').head (List.cons.inj hcolon).2
  obtain ⟨rfl, rfl⟩ := hagree _ _ _ _ _ _ (by omega) hcs hcs' hx hy hrest
  exact ⟨rfl, rfl⟩

theorem Value.agree (hwords : ∀ w ∈ words, w ∈ knownWords)
    (hwords' : ∀ w ∈ words', w ∈ knownWords) (n : Nat) :
    Agree (Value words) (Value words') n := by
  induction n with
  | zero =>
      intro a b s t x y hlen ha
      obtain ⟨c, rest, rfl, _⟩ := ha.solid hwords
      cases hlen
  | succ n ih =>
      intro a b s t x y hlen ha hb hx hy h
      cases ha with
      | atom ha =>
          cases hb with
          | atom hb => exact ha.agree hwords hwords' hb hx hy h
          | string _ | array _ | object _ => exact absurd h (ha.append_ne hwords (by decide))
      | string hcs =>
          cases hb with
          | atom hb => exact absurd h.symm (hb.append_ne hwords' (by decide))
          | string hds =>
              simp only [List.cons_append, List.append_assoc, List.nil_append] at h
              obtain ⟨rfl, rfl⟩ := hcs.unique hds (List.cons.inj h).2
              exact ⟨rfl, rfl⟩
          | array _ | object _ => exact absurd (List.cons.inj h).1 (by decide)
      | array hcs =>
          cases hb with
          | atom hb => exact absurd h.symm (hb.append_ne hwords' (by decide))
          | array hds =>
              simp only [List.length_cons, List.length_append] at hlen
              simp only [List.cons_append, List.append_assoc, List.nil_append] at h
              obtain ⟨rfl, rfl⟩ := hcs.agree ih (fun _ _ => Value.solid hwords)
                (fun _ _ => Value.solid hwords') (.inl rfl) (by omega) hds (List.cons.inj h).2
              exact ⟨rfl, rfl⟩
          | string _ | object _ => exact absurd (List.cons.inj h).1 (by decide)
      | object hcs =>
          cases hb with
          | atom hb => exact absurd h.symm (hb.append_ne hwords' (by decide))
          | object hds =>
              simp only [List.length_cons, List.length_append] at hlen
              simp only [List.cons_append, List.append_assoc, List.nil_append] at h
              obtain ⟨rfl, rfl⟩ := hcs.agree (Member.agree hwords hwords' ih)
                (fun _ _ => Member.solid) (fun _ _ => Member.solid) (.inr rfl) (by omega) hds
                (List.cons.inj h).2
              exact ⟨rfl, rfl⟩
          | string _ | array _ => exact absurd (List.cons.inj h).1 (by decide)

/-- A text stands for one tree, whatever words are known. -/
theorem Text.unique (hwords : ∀ w ∈ words, w ∈ knownWords) (hwords' : ∀ w ∈ words', w ∈ knownWords)
    (ha : Text words cs s) (hb : Text words' cs t) : s = t := by
  generalize hcs : cs = ds at hb
  cases ha with
  | mk hsp hvalue hsp' =>
  cases hb with
  | mk hsp₁ hvalue₁ hsp₁' =>
  obtain ⟨rfl, hrest⟩ := span_unique hsp hsp₁ (hvalue.solid hwords).head
    (hvalue₁.solid hwords').head hcs
  exact (Value.agree hwords hwords' _ _ _ _ _ _ _ (Nat.le_refl _) hvalue hvalue₁ hsp'.ends
    hsp₁'.ends hrest).2

end Values

end ManifestPolicy.Json.Grammar
