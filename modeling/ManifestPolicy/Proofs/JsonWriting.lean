import ManifestPolicy.Proofs.LiteralLine
import ManifestPolicy.Proofs.LiteralReading

/-!
# Written JSON is read again

A value is written in some style: one spelling of the characters in strings,
one separation of the items in collections. If the spelling is one that the
reader knows, and the separation is blank (`Style.Sound`), the reader takes the
value from what was written of it (`read_writeIn`). Both styles are sound. The
one that takes some work is that of ASCII: its escapes have sixteen bits, so
that a character may need two of them.

The proof is the induction for literals once more, on the value with its items
and its members, and so is that of the indented style's other property: nothing
below the blank is left in it but line ends (`clear_writeIn`).
-/

namespace ManifestPolicy

open Text

namespace Json

/-! ## Escapes -/

/-- One more digit. -/
theorem hexPadded_succ {width : Nat} (hwidth : width ≠ 0) (n : Nat) :
    (Utf8.hexPadded (width + 1) n).toList =
      (Utf8.hexPadded width (n / 16)).toList ++ [(n % 16).digitChar] := by
  unfold Utf8.hexPadded
  rw [String.toList_ofList, String.toList_ofList, Nat.toDigits_eq_if (by decide)]
  split
  · next hn =>
      have hzero : Nat.toDigits 16 0 = ['0'] := Nat.toDigits_zero 16
      obtain ⟨width, rfl⟩ := Nat.exists_eq_add_one_of_ne_zero hwidth
      rw [Nat.div_eq_of_lt hn, Nat.mod_eq_of_lt hn, hzero]
      simp [List.replicate_succ']
  · simp

theorem hexPadded_one {n : Nat} (hn : n < 16) : (Utf8.hexPadded 1 n).toList = [n.digitChar] := by
  unfold Utf8.hexPadded
  rw [String.toList_ofList, Nat.toDigits_of_lt_base hn]
  rfl

theorem hex4_digitChar {a b c d : Nat} (ha : a < 16) (hb : b < 16) (hc : c < 16) (hd : d < 16) :
    hex4 [a.digitChar, b.digitChar, c.digitChar, d.digitChar] =
      some (((a * 16 + b) * 16 + c) * 16 + d, []) := by
  have hdigits : ∀ n < 16, isHexDigit n.digitChar = true ∧ digitValue n.digitChar = n := by decide
  obtain ⟨⟨hexa, va⟩, ⟨hexb, vb⟩, ⟨hexc, vc⟩, hexd, vd⟩ :=
    And.intro (hdigits a ha) (And.intro (hdigits b hb) (And.intro (hdigits c hc) (hdigits d hd)))
  rw [hex4, hexa, hexb, hexc, hexd, if_pos (by decide)]
  simp [ofDigits, va, vb, vc, vd]

theorem hex4_hexPadded {n : Nat} (hn : n < 0x10000) :
    hex4 (Utf8.hexPadded 4 n).toList = some (n, []) := by
  rw [hexPadded_succ (by decide), hexPadded_succ (by decide), hexPadded_succ (by decide),
    hexPadded_one (by omega)]
  refine (hex4_digitChar ?_ ?_ ?_ ?_).trans ?_
  any_goals omega
  rw [Option.some.injEq, Prod.mk.injEq]
  exact ⟨by omega, rfl⟩

theorem codeEscape_append (n : Nat) (rest : List Char) : codeEscape n ++ rest =
    '\\' :: 'u' :: ((Utf8.hexPadded 4 n).toList ++ rest) := rfl

theorem spellsAll_asciiChar : SpellsAll asciiChar := by
  intro c rest hrest
  have hvalid : c.toNat < 0xd800 ∨ 0xdfff < c.toNat ∧ c.toNat < 0x110000 := c.valid
  unfold asciiChar
  split
  · exact spells_escapedChar c hrest
  split
  · next hlt =>
      -- The code of a character is none that surrogates have.
      have hhigh : isHighSurrogate c.toNat = false := by simp [isHighSurrogate]; omega
      have hlow : isLowSurrogate c.toNat = false := by simp [isLowSurrogate]; omega
      have hscalar : scalarOf c.toNat = c := by
        rw [scalarOf, hhigh, hlow, if_neg (by decide), Char.ofNat_toNat]
      have hspells := Spells.code (hex4_hexPadded hlt) hrest
        (fun h => by rw [hhigh] at h; cases h)
      rw [codeEscape_append]
      rwa [hscalar] at hspells
  · next hge =>
      have hspells := @Spells.pair _ _ rest _ _
        (hex4_hexPadded (n := 0xd800 + (c.toNat - 0x10000) / 0x400) (by omega))
        (hex4_hexPadded (n := 0xdc00 + (c.toNat - 0x10000) % 0x400) (by omega))
        (by simp [isHighSurrogate]; omega) (by simp [isLowSurrogate]; omega)
      have hcode : 0x10000 + (0xd800 + (c.toNat - 0x10000) / 0x400 - 0xd800) * 0x400
          + (0xdc00 + (c.toNat - 0x10000) % 0x400 - 0xdc00) = c.toNat := by omega
      rw [hcode, Char.ofNat_toNat] at hspells
      dsimp only
      rw [List.append_assoc, codeEscape_append, codeEscape_append]
      exact hspells

/-! ## Styles -/

/-- What is written in the style can be read: its spelling, and the blanks that it sets. -/
structure Style.Sound (st : Style) : Prop where
  spell : SpellsAll st.spell
  edge : ∀ depth, ∀ c ∈ st.edge depth, isSpace c = true
  gap : ∀ depth, ∀ c ∈ st.gap depth, isSpace c = true

theorem isSpace_newLine (depth : Nat) : ∀ c ∈ newLine depth, isSpace c = true := by
  rw [newLine, List.forall_mem_cons]
  exact ⟨rfl, fun c hc => by rw [List.eq_of_mem_replicate hc]; rfl⟩

theorem Style.sound_indented : Style.indented.Sound where
  spell := spellsAll_escapedChar
  edge := isSpace_newLine
  gap := isSpace_newLine

theorem Style.sound_ascii : Style.ascii.Sound where
  spell := spellsAll_asciiChar
  edge _ := Literal.no_space
  gap _ := Literal.one_space

/-! ## Values -/

section Written

variable {st : Style} (hst : st.Sound)
include hst

theorem readsItem_spelled {pre : List Char} {v : Json} (s : String) (h : Reads value pre v) :
    ReadsItem (fun fuel cs rest => ReadsMember fuel cs s v rest)
      (quotedBy st.spell s ++ ':' :: ' ' :: pre) :=
  readsItem_member (string_spelled hst.spell s) Literal.no_space Literal.one_space h

theorem reads_writeAtom {v : Json} {cs : List Char} (hv : v.toValue.Portable)
    (hitems : ∀ w ws, v ≠ .arr (w :: ws)) (hmembers : ∀ m ms, v ≠ .obj (m :: ms))
    (h : writeAtom st v = .ok cs) : Reads value cs v := by
  cases v with
  | null =>
      cases h
      exact reads_word (p := ("null", .null)) (by simp [words])
  | bool b =>
      cases h
      have hword : ((if b then "true" else "false"), Json.bool b) ∈ words := by
        cases b <;> simp [words]
      exact reads_word hword
  | int n =>
      obtain ⟨s, hs, rfl⟩ := map_eq_ok.1 h
      exact reads_decimal hs
  | float x => exact hv.elim
  | str s =>
      cases h
      exact reads_quotedBy hst.spell s
  | arr items =>
      cases items with
      | cons w ws => exact absurd rfl (hitems w ws)
      | nil =>
          cases h
          refine reads_empty (by decide) (by decide) Literal.no_space fun _ _ _ hrest => ?_
          exact ReadsValue.value_eq (.noElements hrest)
  | obj members =>
      cases members with
      | cons m ms => exact absurd rfl (hmembers m ms)
      | nil =>
          cases h
          refine reads_empty (by decide) (by decide) Literal.no_space fun _ _ _ hrest => ?_
          exact ReadsValue.value_eq (.noMembers hrest)

mutual

/-- What is written of a value is read as the value. -/
theorem reads_writeIn {v : Json} {depth : Nat} {cs : List Char} (hv : v.toValue.Portable)
    (h : writeIn st depth v = .ok cs) : Reads value cs v := by
  match v with
  | .null | .bool _ | .int _ | .float _ | .str _ | .arr [] | .obj [] =>
      exact reads_writeAtom hst hv nofun nofun h
  | .arr (w :: ws) =>
      obtain ⟨body, hbody, h⟩ := bind_eq_ok.1 h
      cases h
      have hread := reads_itemsIn (by simp) hv (hst.edge depth) hbody
      refine reads_within (by decide) (hst.edge _) hread (head?_ne_of_elements hread) ?_
      exact fun _ _ _ hhead hvs => ReadsValue.value_eq (.arr hhead hvs)
  | .obj (m :: ms) =>
      obtain ⟨body, hbody, h⟩ := bind_eq_ok.1 h
      cases h
      have hread := reads_membersIn [] (by simp) hv.1 hv.2 (by simp) (hst.edge depth) hbody
      refine reads_within (by decide) (hst.edge _) hread (head?_ne_of_members hread) ?_
      exact fun _ _ _ hhead hms => ReadsValue.value_eq (.obj hhead hms)

theorem reads_itemsIn {vs : List Json} {depth : Nat} {cs sp : List Char} (hne : vs ≠ [])
    (hvs : Value.PortableItems (toValues vs)) (hsp : ∀ c ∈ sp, isSpace c = true)
    (h : itemsIn st depth vs = .ok cs) : Reads elements (cs ++ (sp ++ [']'])) vs := by
  match vs with
  | [] => exact absurd rfl hne
  | [v] =>
      have hread := reads_writeIn hvs.1 h
      refine (Literal.readsItem_value hread).last hsp (by decide) fun _ _ _ _ hv hrest => ?_
      exact elements_eq_ok.2 ⟨v, _, hv, .inl ⟨hrest, rfl⟩⟩
  | v :: w :: vs =>
      obtain ⟨head, hhead, h⟩ := bind_eq_ok.1 h
      obtain ⟨tail, htail, h⟩ := bind_eq_ok.1 h
      cases h
      have hread := reads_writeIn hvs.1 hhead
      have hreads := reads_itemsIn (by simp) hvs.2 hsp htail
      have hmore : Reads elements (head ++ ([] ++ ',' :: (st.gap depth ++ (tail ++ (sp ++ [']'])))))
          (v :: w :: vs) := by
        refine (Literal.readsItem_value hread).more Literal.no_space (hst.gap depth) hreads
          fun _ _ _ _ _ hv hrest hvs => ?_
        exact elements_eq_ok.2 ⟨v, _, hv, .inr ⟨_, w :: vs, hrest, hvs, rfl⟩⟩
      simpa using hmore

theorem reads_membersIn {ms : List (String × Json)} {depth : Nat} {cs sp : List Char}
    (seen : List (String × Json)) (hne : ms ≠ []) (hnodup : ((toEntries ms).map Prod.fst).Nodup)
    (hms : Value.PortableEntries (toEntries ms))
    (hseen : ∀ m ∈ seen, Value.str m.1 ∉ (toEntries ms).map Prod.fst)
    (hsp : ∀ c ∈ sp, isSpace c = true) (h : membersIn st depth ms = .ok cs) :
    Reads (fun fuel cs => members fuel cs seen) (cs ++ (sp ++ ['\x7d'])) (seen ++ ms) := by
  match ms with
  | [] => exact absurd rfl hne
  | [(name, v)] =>
      obtain ⟨text, htext, h⟩ := bind_eq_ok.1 h
      cases h
      have hread := readsItem_spelled hst name (reads_writeIn hms.2.1 htext)
      refine hread.last hsp (by decide) fun _ _ _ _ hm hrest => ?_
      refine members_eq_ok.2 ⟨name, v, _, hm, .inl ⟨hrest, ?_⟩⟩
      exact (put_of_new (Literal.new_name hseen)).symm
  | (name, v) :: m :: ms =>
      obtain ⟨text, htext, h⟩ := bind_eq_ok.1 h
      obtain ⟨tail, htail, h⟩ := bind_eq_ok.1 h
      cases h
      have hread := readsItem_spelled hst name (reads_writeIn hms.2.1 htext)
      rw [toEntries, List.map_cons, List.nodup_cons] at hnodup
      have hlater : ∀ n ∈ seen ++ [(name, v)],
          Value.str n.1 ∉ (toEntries (m :: ms)).map Prod.fst := by
        intro n hn
        rcases List.mem_append.1 hn with hn | hn
        · exact fun hk => hseen n hn (List.mem_cons_of_mem _ hk)
        · rw [List.mem_singleton.1 hn]
          exact hnodup.1
      have hreads :=
        reads_membersIn (seen ++ [(name, v)]) (by simp) hnodup.2 hms.2.2 hlater hsp htail
      rw [List.append_assoc, List.singleton_append] at hreads
      have hmore : Reads (fun fuel cs => members fuel cs seen)
          ((quotedBy st.spell name ++ ':' :: ' ' :: text) ++
            ([] ++ ',' :: (st.gap depth ++ (tail ++ (sp ++ ['\x7d'])))))
          (seen ++ (name, v) :: m :: ms) := by
        refine hread.more Literal.no_space (hst.gap depth) hreads fun _ _ _ _ _ hm hrest hms => ?_
        refine members_eq_ok.2 ⟨name, v, _, hm, .inr ⟨_, hrest, ?_⟩⟩
        rw [put_of_new (Literal.new_name hseen)]
        exact hms
      simpa using hmore

end

/-- Reading undoes writing, also if blanks follow. -/
theorem read_writeIn {v : Json} {depth : Nat} {cs post : List Char} (hv : v.toValue.Portable)
    (h : writeIn st depth v = .ok cs) (hpost : ∀ c ∈ post, isSpace c = true) :
    read (String.ofList (cs ++ post)) = .ok v := by
  refine read_eq_ok.2 ⟨[], cs, post, ?_, Literal.no_space, hpost, reads_writeIn hst hv h⟩
  rw [String.toList_ofList, List.nil_append]

end Written

/-! ## Values that can be written -/

/-- The value can be written, in whatever style and however deep it stands. -/
def Writable (v : Json) : Prop := ∀ st depth, ∃ cs, writeIn st depth v = .ok cs

theorem writable_str (s : String) : Writable (.str s) := fun st _ => ⟨quotedBy st.spell s, rfl⟩

theorem writable_arr {items : List Json} (h : ∀ v ∈ items, Writable v) : Writable (.arr items) := by
  intro st depth
  have hitems (depth : Nat) : ∃ cs, itemsIn st depth items = .ok cs := by
    induction items with
    | nil => exact ⟨[], rfl⟩
    | cons v vs ih =>
        obtain ⟨head, hhead⟩ := h v List.mem_cons_self st depth
        obtain ⟨tail, htail⟩ := ih fun w hw => h w (List.mem_cons_of_mem _ hw)
        cases vs with
        | nil => exact ⟨head, hhead⟩
        | cons w ws => exact ⟨_, bind_eq_ok.2 ⟨head, hhead, bind_eq_ok.2 ⟨tail, htail, rfl⟩⟩⟩
  cases items with
  | nil => exact ⟨"[]".toList, rfl⟩
  | cons v vs =>
      obtain ⟨body, hbody⟩ := hitems (depth + 1)
      exact ⟨_, bind_eq_ok.2 ⟨body, hbody, rfl⟩⟩

theorem writable_obj {members : List (String × Json)} (h : ∀ m ∈ members, Writable m.2) :
    Writable (.obj members) := by
  intro st depth
  have hmembers (depth : Nat) : ∃ cs, membersIn st depth members = .ok cs := by
    induction members with
    | nil => exact ⟨[], rfl⟩
    | cons m ms ih =>
        obtain ⟨text, htext⟩ := h m List.mem_cons_self st depth
        obtain ⟨tail, htail⟩ := ih fun w hw => h w (List.mem_cons_of_mem _ hw)
        cases ms with
        | nil => exact ⟨_, bind_eq_ok.2 ⟨text, htext, rfl⟩⟩
        | cons w ws => exact ⟨_, bind_eq_ok.2 ⟨text, htext, bind_eq_ok.2 ⟨tail, htail, rfl⟩⟩⟩
  cases members with
  | nil => exact ⟨"{}".toList, rfl⟩
  | cons m ms =>
      obtain ⟨body, hbody⟩ := hmembers (depth + 1)
      exact ⟨_, bind_eq_ok.2 ⟨body, hbody, rfl⟩⟩

/-! ## Characters of an indented text -/

/-- Every character below the blank is a line end. -/
def Clear (cs : List Char) : Prop := ∀ c ∈ cs, c = '\n' ∨ 0x20 ≤ c.toNat

section Clear

variable {c : Char} {cs ds : List Char}

@[simp]
theorem clear_cons : Clear (c :: cs) ↔ (c = '\n' ∨ 0x20 ≤ c.toNat) ∧ Clear cs :=
  List.forall_mem_cons

@[simp]
theorem clear_append : Clear (cs ++ ds) ↔ Clear cs ∧ Clear ds := List.forall_mem_append

theorem clear_of_noControls (h : NoControls cs) : Clear cs := fun c hc => .inr (h c hc)

@[simp]
theorem clear_nil : Clear [] := clear_of_noControls noControls_nil

@[simp]
theorem clear_newLine (depth : Nat) : Clear (newLine depth) := by
  rw [newLine, clear_cons]
  refine ⟨.inl rfl, clear_of_noControls fun c hc => ?_⟩
  rw [List.eq_of_mem_replicate hc]
  decide

@[simp]
theorem clear_quotedString (s : String) : Clear (quotedBy escapedChar s) :=
  clear_of_noControls (noControls_quotedString s)

theorem clear_writeAtom {v : Json} (h : writeAtom .indented v = .ok cs) : Clear cs := by
  cases v with
  | null | arr _ | obj _ =>
      cases h
      simp
  | bool b =>
      cases h
      cases b <;> simp
  | int n =>
      obtain ⟨s, hs, rfl⟩ := map_eq_ok.1 h
      exact clear_of_noControls (Integer.noControls_write hs)
  | float x =>
      cases h
      exact clear_of_noControls x.noControls_write
  | str s =>
      cases h
      exact clear_quotedString s

mutual

/-- What is written of a value with each item on its own line has no controls but line ends. -/
theorem clear_writeIn {v : Json} {depth : Nat} {cs : List Char}
    (h : writeIn .indented depth v = .ok cs) : Clear cs := by
  match v with
  | .null | .bool _ | .int _ | .float _ | .str _ | .arr [] | .obj [] =>
      simp only [writeIn] at h
      exact clear_writeAtom h
  | .arr (w :: ws) =>
      obtain ⟨body, hbody, h⟩ := bind_eq_ok.1 h
      cases h
      simpa [Style.indented] using clear_itemsIn hbody
  | .obj (m :: ms) =>
      obtain ⟨body, hbody, h⟩ := bind_eq_ok.1 h
      cases h
      simpa [Style.indented] using clear_membersIn hbody

theorem clear_itemsIn {vs : List Json} {depth : Nat} {cs : List Char}
    (h : itemsIn .indented depth vs = .ok cs) : Clear cs := by
  match vs with
  | [] =>
      cases h
      exact clear_nil
  | [v] => exact clear_writeIn h
  | v :: w :: vs =>
      obtain ⟨head, hhead, h⟩ := bind_eq_ok.1 h
      obtain ⟨tail, htail, h⟩ := bind_eq_ok.1 h
      cases h
      simpa [Style.indented] using ⟨clear_writeIn hhead, clear_itemsIn htail⟩

theorem clear_membersIn {ms : List (String × Json)} {depth : Nat} {cs : List Char}
    (h : membersIn .indented depth ms = .ok cs) : Clear cs := by
  match ms with
  | [] =>
      cases h
      exact clear_nil
  | [(name, v)] =>
      obtain ⟨text, htext, h⟩ := bind_eq_ok.1 h
      cases h
      simpa [Style.indented] using clear_writeIn htext
  | (name, v) :: m :: ms =>
      obtain ⟨text, htext, h⟩ := bind_eq_ok.1 h
      obtain ⟨tail, htail, h⟩ := bind_eq_ok.1 h
      cases h
      simpa [Style.indented] using ⟨clear_writeIn htext, clear_membersIn htail⟩

end

end Clear

end Json

end ManifestPolicy
