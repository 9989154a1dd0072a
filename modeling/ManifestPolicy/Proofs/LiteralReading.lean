import ManifestPolicy.Proofs.DecimalText
import ManifestPolicy.Proofs.JsonReading
import ManifestPolicy.Value.Literal

/-!
# Literals are read as what was written

What a literal is written from, JSON also has, as long as there are no numbers
with a fraction in it, and the keys of a mapping are strings (`Value.Portable`).
The literal of such a value is then a text from which the reader of JSON takes
the same value, its entries in the same order (`Literal.read_write`).

The proof is an induction on the value, with its items and its entries, and
ends for each of them in a piece of text that is read again (`Reads`). For the
entries of a mapping this depends on those that were read before, for a reader
that meets a name again puts the value in the old place: the keys must be new.
-/

namespace ManifestPolicy

/-! ## Values that JSON has -/

mutual

/-- The value consists of null, booleans, integers, strings, lists, and mappings from strings in
which no key comes twice. -/
def Value.Portable : Value → Prop
  | .null | .bool _ | .int _ | .str _ => True
  | .list items => Value.PortableItems items
  | .map entries => (entries.map Prod.fst).Nodup ∧ Value.PortableEntries entries
  | _ => False

/-- All items are such values. -/
def Value.PortableItems : List Value → Prop
  | [] => True
  | v :: vs => v.Portable ∧ Value.PortableItems vs

/-- All keys are strings, and all entries have such values. -/
def Value.PortableEntries : List (Value × Value) → Prop
  | [] => True
  | (k, v) :: es => (∃ s, k = .str s) ∧ v.Portable ∧ Value.PortableEntries es

end

namespace Json

/-! ## Strings -/

/-- A character of a string stands for itself, or has a short escape, or one with its code. -/
theorem escapedChar_cases (c : Char) :
    (escapedChar c = [c] ∧ c ≠ '"' ∧ c ≠ '\\' ∧ 0x20 ≤ c.toNat) ∨
    (∃ e, escapedChar c = ['\\', e] ∧ e ≠ 'u' ∧ shortEscape e = some c) ∨
    ∃ ds, escapedChar c = '\\' :: 'u' :: ds ∧ hex4 ds = some (c.toNat, []) ∧ c.toNat < 0x20 := by
  by_cases hquote : c = '"'
  · subst hquote
    exact .inr (.inl ⟨'"', rfl, by decide, rfl⟩)
  by_cases hslash : c = '\\'
  · subst hslash
    exact .inr (.inl ⟨'\\', rfl, by decide, rfl⟩)
  by_cases hn : c = '\n'
  · subst hn
    exact .inr (.inl ⟨'n', rfl, by decide, rfl⟩)
  by_cases hr : c = '\r'
  · subst hr
    exact .inr (.inl ⟨'r', rfl, by decide, rfl⟩)
  by_cases ht : c = '\t'
  · subst ht
    exact .inr (.inl ⟨'t', rfl, by decide, rfl⟩)
  by_cases hb : c = '\x08'
  · subst hb
    exact .inr (.inl ⟨'b', rfl, by decide, rfl⟩)
  by_cases hf : c = '\x0c'
  · subst hf
    exact .inr (.inl ⟨'f', rfl, by decide, rfl⟩)
  rw [escapedChar, if_neg hquote, if_neg hslash, if_neg hn, if_neg hr, if_neg ht, if_neg hb,
    if_neg hf]
  by_cases hcontrol : c.toNat < 0x20
  · have hcodes : ∀ n < 0x20, hex4 (Text.Utf8.hexPadded 4 n).toList = some (n, []) := by
      decide +kernel
    rw [if_pos hcontrol]
    exact .inr (.inr ⟨_, rfl, hcodes c.toNat hcontrol, hcontrol⟩)
  · rw [if_neg hcontrol]
    exact .inl ⟨rfl, hquote, hslash, Nat.not_lt.1 hcontrol⟩

theorem spells_escapedChar (c : Char) {rest : List Char} (hrest : rest ≠ []) :
    Spells (escapedChar c ++ rest) c rest := by
  rcases escapedChar_cases c with ⟨hc, hquote, hslash, hcontrol⟩ | ⟨e, hc, he, hshort⟩ |
    ⟨ds, hc, hds, hcontrol⟩
  · rw [hc]
    exact .plain hquote hslash hcontrol
  · rw [hc]
    exact .short he hshort
  · rw [hc]
    -- A control character is no half of a pair of surrogates.
    have hhigh : isHighSurrogate c.toNat = false := by simp [isHighSurrogate]; omega
    have hlow : isLowSurrogate c.toNat = false := by simp [isLowSurrogate]; omega
    have hscalar : scalarOf c.toNat = c := by
      rw [scalarOf, hhigh, hlow, if_neg (by decide), Char.ofNat_toNat]
    have hspells := @Spells.code ds rest c.toNat hds hrest (by rw [hhigh]; exact nofun)
    rwa [hscalar] at hspells

/-- Whatever follows, the spelling of a character is read as the character. -/
def SpellsAll (spell : Char → List Char) : Prop :=
  ∀ c rest, rest ≠ [] → Spells (spell c ++ rest) c rest

theorem spellsAll_escapedChar : SpellsAll escapedChar := fun c _ => spells_escapedChar c

section Quoted

variable {spell : Char → List Char} (hspell : SpellsAll spell)
include hspell

theorem chars_spelled (start tail cs : List Char) {fuel : Nat} (hfuel : cs.length < fuel) :
    chars start fuel (cs.flatMap spell ++ '"' :: tail) = .ok (cs, tail) := by
  induction cs generalizing fuel with
  | nil =>
      obtain ⟨fuel, rfl, _⟩ := exists_budget hfuel
      exact chars_eq_ok.2 (.inl ⟨rfl, rfl⟩)
  | cons c cs ih =>
      obtain ⟨fuel, rfl, hlen⟩ := exists_budget hfuel
      rw [List.flatMap_cons, List.append_assoc]
      exact chars_eq_ok.2 (.inr ⟨c, _, cs, hspell c _ (by simp), ih hlen, rfl⟩)

theorem length_le_spelled (cs : List Char) : cs.length ≤ (cs.flatMap spell).length := by
  induction cs with
  | nil => exact Nat.le_refl _
  | cons c cs ih =>
      obtain ⟨pre, hne, hpre, _⟩ := (hspell c ['"'] (by simp)).again
      have hone : 1 ≤ (spell c).length := by
        rw [List.append_cancel_right hpre]
        exact List.length_pos_iff.2 hne
      rw [List.flatMap_cons, List.length_append, List.length_cons]
      omega

/-- What stands behind the opening quote of a string is read as the string. -/
theorem string_spelled (s : String) (start tail : List Char) :
    string start (s.toList.flatMap spell ++ ['"'] ++ tail) = .ok (s, tail) := by
  rw [List.append_assoc, List.singleton_append]
  refine bind_eq_ok.2 ⟨(s.toList, tail), chars_spelled hspell start tail s.toList ?_, ?_⟩
  · have := length_le_spelled hspell s.toList
    rw [List.length_append, List.length_cons]
    omega
  · dsimp only
    rw [String.ofList_toList]
    rfl

theorem reads_quotedBy (s : String) : Reads value (quotedBy spell s) (.str s) where
  opens := opens_cons (by decide)
  closes := (closes_concat _ (by decide)).cons '"'
  again tail fuel _ hfuel := by
    obtain ⟨fuel, rfl, _⟩ := exists_budget hfuel
    exact ReadsValue.value_eq (.str (string_spelled hspell s _ tail))

end Quoted

/-! ## Values without items -/

theorem reads_of_atom {pre : List Char} {v : Json} (h : Reads (fun _ => atom) pre v)
    (hhead : ∀ c ∈ pre.head?, c ≠ '"' ∧ c ≠ '[' ∧ c ≠ '\x7b') : Reads value pre v where
  opens := h.opens
  closes := h.closes
  again tail fuel htail hfuel := by
    obtain ⟨c, rest, rfl, _⟩ := h.opens
    obtain ⟨fuel, rfl, _⟩ := exists_budget hfuel
    obtain ⟨hquote, hbracket, hbrace⟩ := hhead c rfl
    exact ReadsValue.value_eq (.atom hquote hbracket hbrace (h.again tail _ htail (Nat.le_refl _)))

theorem reads_word {p : String × Json} (h : p ∈ words) : Reads value p.1.toList p.2 := by
  refine reads_of_atom ⟨?_, words_closes h, fun tail _ _ _ => ?_⟩ ?_
  · obtain ⟨c, c', rest, hword, _, _, hc⟩ := words_spelling h
    rw [hword]
    exact opens_cons hc
  · rw [atom_eq, named?_word h]
  · simp only [words, List.mem_cons, List.not_mem_nil, or_false] at h
    rcases h with rfl | rfl | rfl | rfl | rfl | rfl <;>
      exact fun c hc => (by cases hc; decide)

theorem reads_decimal {n : Int} {s : String} (h : Integer.write n = .ok s) :
    Reads value s.toList (.int n) := by
  refine reads_of_atom (reads_integer h) ?_
  obtain ⟨d, rest, hds, hd⟩ := (whole_decimal n.natAbs).digits.head
  rw [(Integer.write_eq_ok.1 h).2, hds]
  split
  · rintro c ⟨⟩
    decide
  · rintro c ⟨⟩
    refine ⟨?_, ?_, ?_⟩ <;>
    · rintro rfl
      cases hd

/-! ## Items and members -/

/-- No value begins with a closing bracket. -/
theorem head?_ne_of_elements {pre : List Char} {vs : List Json} (h : Reads elements pre vs) :
    ∀ c ∈ pre.head?, c ≠ ']' := by
  obtain ⟨c, rest, rfl, _⟩ := h.opens
  rintro d ⟨⟩ rfl
  have hread := h.again [] (rest.length + 2) apart_nil (Nat.le_succ _)
  obtain ⟨v, after, hv, _⟩ := elements_eq_ok.1 hread
  cases readsValue_of_value hv with
  | atom _ _ _ hatom => cases hatom

/-- No member begins with a closing brace. -/
theorem head?_ne_of_members {pre : List Char} {seen ms : List (String × Json)}
    (h : Reads (fun fuel cs => members fuel cs seen) pre ms) : ∀ c ∈ pre.head?, c ≠ '\x7d' := by
  obtain ⟨c, rest, rfl, _⟩ := h.opens
  rintro d ⟨⟩ rfl
  have hread := h.again [] (rest.length + 1) apart_nil (Nat.le_refl _)
  obtain ⟨name, v, after, hmember, _⟩ := members_eq_ok.1 hread
  obtain ⟨_, _, _, hquote, _⟩ := hmember
  cases hquote

/-- A member with a new name comes last. -/
theorem put_of_new {α : Type} {name : String} {v : α} {ms : List (String × α)}
    (h : name ∉ ms.map Prod.fst) : put name v ms = ms ++ [(name, v)] := by
  induction ms with
  | nil => rfl
  | cons m ms ih =>
      rw [List.map_cons, List.mem_cons, not_or] at h
      rw [put, if_neg (Ne.symm h.1), ih h.2, List.cons_append]

end Json

namespace Literal

open Json

theorem integer_eq_ok {n : Int} {cs : List Char} : integer n = .ok cs ↔
    ∃ s, Integer.write n = .ok s ∧ s.toList = cs := by
  unfold integer
  split
  · next s hs =>
      rw [hs, Except.ok.injEq]
      exact ⟨fun h => ⟨s, rfl, h⟩, fun ⟨_, h, hcs⟩ => by cases h; exact hcs⟩
  · next f hf =>
      rw [hf]
      exact ⟨nofun, fun ⟨_, h, _⟩ => nomatch h⟩

/-! ## Values -/

theorem no_space : ∀ c ∈ ([] : List Char), isSpace c = true := nofun

theorem one_space : ∀ c ∈ [' '], isSpace c = true := List.forall_mem_singleton.2 rfl

theorem readsItem_value {pre : List Char} {j : Json} (h : Reads value pre j) :
    ReadsItem (fun fuel cs rest => value fuel cs = .ok (j, rest)) pre :=
  ⟨h.opens, h.again⟩

theorem readsItem_written {pre : List Char} {j : Json} (s : String) (h : Reads value pre j) :
    ReadsItem (fun fuel cs rest => ReadsMember fuel cs s j rest)
      (quotedString s ++ ':' :: ' ' :: pre) :=
  readsItem_member (string_spelled spellsAll_escapedChar s) no_space one_space h

/-- The first key is not among the names that were read before. -/
theorem new_name {s : String} {v : Value} {es : List (Value × Value)}
    {seen : List (String × Json)}
    (h : ∀ m ∈ seen, Value.str m.1 ∉ ((.str s, v) :: es).map Prod.fst) :
    s ∉ seen.map Prod.fst := by
  intro hs
  obtain ⟨m, hm, rfl⟩ := List.mem_map.1 hs
  exact h m hm List.mem_cons_self

mutual

/-- The literal of a value is read as the value. -/
theorem reads_encode {v : Value} {cs : List Char} (hv : v.Portable) (h : encode v = .ok cs) :
    ∃ j : Json, j.toValue = v ∧ Reads value cs j := by
  match v with
  | .null =>
      cases h
      exact ⟨.null, rfl, reads_word (p := ("null", .null)) (by simp [words])⟩
  | .bool b =>
      cases h
      have hword : ((if b then "true" else "false"), Json.bool b) ∈ words := by
        cases b <;> simp [words]
      exact ⟨.bool b, rfl, reads_word hword⟩
  | .int n =>
      obtain ⟨s, hs, rfl⟩ := integer_eq_ok.1 h
      exact ⟨.int n, rfl, reads_decimal hs⟩
  | .str s =>
      cases h
      exact ⟨.str s, rfl, reads_quotedBy spellsAll_escapedChar s⟩
  | .list [] =>
      cases h
      refine ⟨.arr [], rfl, reads_empty (by decide) (by decide) no_space ?_⟩
      exact fun _ _ _ hrest => ReadsValue.value_eq (.noElements hrest)
  | .list (v :: vs) =>
      obtain ⟨body, hbody, h⟩ := bind_eq_ok.1 h
      cases h
      obtain ⟨js, hjs, hread⟩ := reads_encodeItems (by simp) hv hbody
      refine ⟨.arr js, congrArg Value.list hjs, ?_⟩
      rw [← List.nil_append (body ++ [']'])]
      refine reads_within (by decide) no_space hread (head?_ne_of_elements hread) ?_
      exact fun _ _ _ hhead hvs => ReadsValue.value_eq (.arr hhead hvs)
  | .map [] =>
      cases h
      refine ⟨.obj [], rfl, reads_empty (by decide) (by decide) no_space ?_⟩
      exact fun _ _ _ hrest => ReadsValue.value_eq (.noMembers hrest)
  | .map (e :: es) =>
      obtain ⟨body, hbody, h⟩ := bind_eq_ok.1 h
      cases h
      obtain ⟨ms, hms, hread⟩ := reads_encodeEntries [] (by simp) hv.1 hv.2 (by simp) hbody
      refine ⟨.obj ms, congrArg Value.map hms, ?_⟩
      rw [← List.nil_append (body ++ ['\x7d'])]
      refine reads_within (by decide) no_space hread (head?_ne_of_members hread) ?_
      exact fun _ _ _ hhead hms => ReadsValue.value_eq (.obj hhead hms)

theorem reads_encodeItems {vs : List Value} {cs : List Char} (hne : vs ≠ [])
    (hvs : Value.PortableItems vs) (h : encodeItems vs = .ok cs) :
    ∃ js, toValues js = vs ∧ Reads elements (cs ++ [']']) js := by
  match vs with
  | [] => exact absurd rfl hne
  | [v] =>
      obtain ⟨j, hj, hread⟩ := reads_encode hvs.1 h
      refine ⟨[j], by rw [toValues, toValues, hj],
        (readsItem_value hread).last no_space (by decide) fun _ _ _ _ hv hrest => ?_⟩
      exact elements_eq_ok.2 ⟨j, _, hv, .inl ⟨hrest, rfl⟩⟩
  | v :: w :: vs =>
      obtain ⟨head, hhead, h⟩ := bind_eq_ok.1 h
      obtain ⟨tail, htail, h⟩ := bind_eq_ok.1 h
      cases h
      obtain ⟨j, hj, hread⟩ := reads_encode hvs.1 hhead
      obtain ⟨js, hjs, hreads⟩ := reads_encodeItems (by simp) hvs.2 htail
      refine ⟨j :: js, by rw [toValues, hj, hjs], ?_⟩
      rw [List.append_assoc]
      refine (readsItem_value hread).more no_space one_space hreads fun _ _ _ _ _ hv hrest hvs => ?_
      exact elements_eq_ok.2 ⟨j, _, hv, .inr ⟨_, js, hrest, hvs, rfl⟩⟩

theorem reads_encodeEntries {es : List (Value × Value)} {cs : List Char}
    (seen : List (String × Json)) (hne : es ≠ []) (hnodup : (es.map Prod.fst).Nodup)
    (hes : Value.PortableEntries es) (hseen : ∀ m ∈ seen, Value.str m.1 ∉ es.map Prod.fst)
    (h : encodeEntries es = .ok cs) :
    ∃ ms, toEntries ms = es ∧
      Reads (fun fuel cs => members fuel cs seen) (cs ++ ['\x7d']) (seen ++ ms) := by
  match es with
  | [] => exact absurd rfl hne
  | [(k, v)] =>
      obtain ⟨⟨s, rfl⟩, hv, _⟩ := hes
      obtain ⟨name, hname, h⟩ := bind_eq_ok.1 h
      obtain ⟨text, htext, h⟩ := bind_eq_ok.1 h
      cases hname
      cases h
      obtain ⟨j, hj, hread⟩ := reads_encode hv htext
      refine ⟨[(s, j)], by rw [toEntries, toEntries, hj],
        (readsItem_written s hread).last no_space (by decide) fun _ _ _ _ hm hrest => ?_⟩
      exact members_eq_ok.2 ⟨s, j, _, hm, .inl ⟨hrest, (put_of_new (new_name hseen)).symm⟩⟩
  | (k, v) :: e :: es =>
      obtain ⟨⟨s, rfl⟩, hv, hes⟩ := hes
      obtain ⟨name, hname, h⟩ := bind_eq_ok.1 h
      obtain ⟨text, htext, h⟩ := bind_eq_ok.1 h
      obtain ⟨tail, htail, h⟩ := bind_eq_ok.1 h
      cases hname
      cases h
      obtain ⟨j, hj, hread⟩ := reads_encode hv htext
      rw [List.map_cons, List.nodup_cons] at hnodup
      have hlater : ∀ m ∈ seen ++ [(s, j)], Value.str m.1 ∉ (e :: es).map Prod.fst := by
        intro m hm
        rcases List.mem_append.1 hm with hm | hm
        · exact fun hk => hseen m hm (List.mem_cons_of_mem _ hk)
        · rw [List.mem_singleton.1 hm]
          exact hnodup.1
      obtain ⟨ms, hms, hreads⟩ :=
        reads_encodeEntries (seen ++ [(s, j)]) (by simp) hnodup.2 hes hlater htail
      refine ⟨(s, j) :: ms, by rw [toEntries, hj, hms], ?_⟩
      rw [List.append_assoc, List.singleton_append] at hreads
      rw [List.append_assoc]
      refine (readsItem_written s hread).more no_space one_space hreads
        fun _ _ _ _ _ hm hrest hms => ?_
      refine members_eq_ok.2 ⟨s, j, _, hm, .inr ⟨_, hrest, ?_⟩⟩
      rw [put_of_new (new_name hseen)]
      exact hms

end

/-- Reading undoes writing: if there is a literal, the reader of JSON takes the value from it, with
the entries of its mappings in their order. -/
theorem read_write {v : Value} {text : String} (hv : v.Portable) (h : write v = .ok text) :
    ∃ j, Json.read text = .ok j ∧ j.toValue = v := by
  obtain ⟨cs, hcs, rfl⟩ := map_eq_ok.1 h
  obtain ⟨j, hj, hread⟩ := reads_encode hv hcs
  refine ⟨j, read_eq_ok.2 ⟨[], cs, [], ?_, no_space, no_space, hread⟩, hj⟩
  rw [String.toList_ofList, List.nil_append, List.append_nil]

theorem read_write_nested :
    let v : Value := .map [(.str "ä\n", .list [.null, .int (-10)]), (.str "", .map [])]
    let text := "\x7b\"ä\\n\": [null, -10], \"\": \x7b\x7d\x7d"
    (v.Portable ∧ write v = .ok text) ∧ ∃ j, Json.read text = .ok j ∧ j.toValue = v := by
  intro v text
  have hv : v.Portable := by
    simp [v, Value.Portable, Value.PortableItems, Value.PortableEntries]
  have htext : write v = .ok text := by decide +kernel
  exact ⟨⟨hv, htext⟩, read_write hv htext⟩

end Literal

end ManifestPolicy
