import ManifestPolicy.Proofs.JsonStrings

/-!
# Texts that are JSON

Arrays and objects are read from pieces of a text, as what is in them is. The
three readers call each other, with a budget that is one smaller: the induction
is on the budget, and says of all three at once that what they read, they read
again (`pieces`).

A text is then a piece with blanks around it (`read_eq_ok`), and these can be
left out, be they those of JSON or others (`read_strip`).
-/

namespace ManifestPolicy.Json

open Text

/-! ## Collections -/

section Collections

variable {cs after : List Char} {v : Json} {vs : List Json} {seen ms : List (String × Json)}
  {fuel : Nat}

theorem elements_eq_ok : elements (fuel + 1) cs = .ok (vs, after) ↔
    ∃ v rest, value fuel cs = .ok (v, rest) ∧
      ((skipSpace rest = ']' :: after ∧ vs = [v]) ∨
        ∃ more vs', skipSpace rest = ',' :: more ∧
          elements fuel (skipSpace more) = .ok (vs', after) ∧ vs = v :: vs') := by
  rw [elements, bind_eq_ok]
  constructor
  · rintro ⟨⟨v, rest⟩, hv, h⟩
    refine ⟨v, rest, hv, ?_⟩
    dsimp only at h
    split at h
    · next left hrest =>
        cases h
        exact .inl ⟨hrest, rfl⟩
    · next more hrest =>
        obtain ⟨⟨vs', left⟩, hvs, h⟩ := bind_eq_ok.1 h
        cases h
        exact .inr ⟨more, vs', hrest, hvs, rfl⟩
    · cases h
  · rintro ⟨v, rest, hv, ⟨hrest, rfl⟩ | ⟨more, vs', hrest, hvs, rfl⟩⟩
    · refine ⟨(v, rest), hv, ?_⟩
      dsimp only
      rw [hrest]
      rfl
    · refine ⟨(v, rest), hv, ?_⟩
      dsimp only
      rw [hrest]
      exact bind_eq_ok.2 ⟨(vs', after), hvs, rfl⟩

/-- One member of an object is read, and what stands behind it is left. -/
def ReadsMember (fuel : Nat) (cs : List Char) (name : String) (v : Json) (after : List Char) :
    Prop :=
  ∃ quoted rest more, cs = '"' :: quoted ∧ string cs quoted = .ok (name, rest) ∧
    skipSpace rest = ':' :: more ∧ value fuel (skipSpace more) = .ok (v, after)

theorem members_eq_ok : members (fuel + 1) cs seen = .ok (ms, after) ↔
    ∃ name v rest, ReadsMember fuel cs name v rest ∧
      ((skipSpace rest = '\x7d' :: after ∧ ms = put name v seen) ∨
        ∃ more, skipSpace rest = ',' :: more ∧
          members fuel (skipSpace more) (put name v seen) = .ok (ms, after)) := by
  rw [members.eq_def]
  dsimp only
  constructor
  · intro h
    split at h
    · next quoted =>
        obtain ⟨⟨name, rest⟩, hname, h⟩ := bind_eq_ok.1 h
        dsimp only at h
        split at h
        · next more hrest =>
            obtain ⟨⟨v, last⟩, hv, h⟩ := bind_eq_ok.1 h
            dsimp only at h
            refine ⟨name, v, last, ⟨quoted, rest, more, rfl, hname, hrest, hv⟩, ?_⟩
            split at h
            · next left hlast =>
                cases h
                exact .inl ⟨hlast, rfl⟩
            · next others hlast => exact .inr ⟨others, hlast, h⟩
            · cases h
        · cases h
    · cases h
  · rintro ⟨name, v, last, ⟨quoted, rest, more, rfl, hname, hrest, hv⟩, hlast⟩
    refine bind_eq_ok.2 ⟨(name, rest), hname, ?_⟩
    dsimp only
    rw [hrest]
    refine bind_eq_ok.2 ⟨(v, last), hv, ?_⟩
    dsimp only
    rcases hlast with ⟨hlast, rfl⟩ | ⟨others, hlast, hothers⟩
    · rw [hlast]
      rfl
    · rw [hlast]
      exact hothers

/-- How a value is read, by the character that it begins with. -/
inductive ReadsValue (fuel : Nat) : List Char → Json → List Char → Prop
  | str {rest after : List Char} {s : String} : string ('"' :: rest) rest = .ok (s, after) →
      ReadsValue fuel ('"' :: rest) (.str s) after
  | noElements {rest after : List Char} : skipSpace rest = ']' :: after →
      ReadsValue fuel ('[' :: rest) (.arr []) after
  | arr {rest after : List Char} {vs : List Json} : (∀ c ∈ (skipSpace rest).head?, c ≠ ']') →
      elements fuel (skipSpace rest) = .ok (vs, after) → ReadsValue fuel ('[' :: rest) (.arr vs) after
  | noMembers {rest after : List Char} : skipSpace rest = '\x7d' :: after →
      ReadsValue fuel ('\x7b' :: rest) (.obj []) after
  | obj {rest after : List Char} {ms : List (String × Json)} :
      (∀ c ∈ (skipSpace rest).head?, c ≠ '\x7d') →
      members fuel (skipSpace rest) [] = .ok (ms, after) →
      ReadsValue fuel ('\x7b' :: rest) (.obj ms) after
  | atom {c : Char} {rest after : List Char} {v : Json} : c ≠ '"' → c ≠ '[' → c ≠ '\x7b' →
      atom (c :: rest) = .ok (v, after) → ReadsValue fuel (c :: rest) v after

/-- A text that does not go on with a character begins with another one, if any. -/
theorem head?_ne {c : Char} (h : ∀ more, cs ≠ c :: more) : ∀ d ∈ cs.head?, d ≠ c := by
  rintro d hd rfl
  obtain ⟨more, hmore⟩ := List.head?_eq_some_iff.1 hd
  exact h more hmore

theorem readsValue_of_value (h : value (fuel + 1) cs = .ok (v, after)) :
    ReadsValue fuel cs v after := by
  cases cs with
  | nil => cases h
  | cons c rest =>
  rw [value.eq_def] at h
  dsimp only at h
  split at h
  · next hquote =>
      subst hquote
      obtain ⟨⟨s, left⟩, hs, h⟩ := bind_eq_ok.1 h
      cases h
      exact .str hs
  next hquote =>
  split at h
  · next hbracket =>
      subst hbracket
      split at h
      · next left hrest =>
          cases h
          exact .noElements hrest
      · next hrest =>
          obtain ⟨⟨vs, left⟩, hvs, h⟩ := bind_eq_ok.1 h
          cases h
          exact .arr (head?_ne hrest) hvs
  next hbracket =>
  split at h
  · next hbrace =>
      subst hbrace
      split at h
      · next left hrest =>
          cases h
          exact .noMembers hrest
      · next hrest =>
          obtain ⟨⟨ms, left⟩, hms, h⟩ := bind_eq_ok.1 h
          cases h
          exact .obj (head?_ne hrest) hms
  · next hbrace => exact .atom hquote hbracket hbrace h

theorem ReadsValue.value_eq (h : ReadsValue fuel cs v after) :
    value (fuel + 1) cs = .ok (v, after) := by
  rw [value.eq_def]
  cases h with
  | str hs =>
      dsimp only
      rw [if_pos rfl, hs]
      rfl
  | noElements hrest =>
      dsimp only
      rw [if_neg (by decide), if_pos rfl, hrest]
      rfl
  | arr hhead hvs =>
      dsimp only
      rw [if_neg (by decide), if_pos rfl]
      split
      · next left hrest =>
          rw [hrest] at hhead
          exact absurd rfl (hhead _ rfl)
      · rw [hvs]
        rfl
  | noMembers hrest =>
      dsimp only
      rw [if_neg (by decide), if_neg (by decide), if_pos rfl, hrest]
      rfl
  | obj hhead hms =>
      dsimp only
      rw [if_neg (by decide), if_neg (by decide), if_pos rfl]
      split
      · next left hrest =>
          rw [hrest] at hhead
          exact absurd rfl (hhead _ rfl)
      · rw [hms]
        rfl
  | atom hquote hbracket hbrace hv =>
      dsimp only
      rw [if_neg hquote, if_neg hbracket, if_neg hbrace, hv]

theorem skipSpace_eq_cons {c : Char} {rest : List Char} : skipSpace cs = c :: rest ↔
    ∃ sp, (∀ d ∈ sp, isSpace d = true) ∧ cs = sp ++ c :: rest ∧ isSpace c = false := by
  constructor
  · intro h
    obtain ⟨sp, hcs, hsp⟩ := exists_skipSpace cs
    refine ⟨sp, hsp, by rw [← h, ← hcs], ?_⟩
    have hhead := List.head?_dropWhile_not isSpace cs
    rw [← skipSpace, h] at hhead
    exact hhead
  · rintro ⟨sp, hsp, rfl, hc⟩
    rw [skipSpace_append hsp, skipSpace_cons hc]

theorem skipSpace_opens {sp pre : List Char} (hsp : ∀ d ∈ sp, isSpace d = true) (h : Opens pre)
    (tail : List Char) : skipSpace (sp ++ (pre ++ tail)) = pre ++ tail := by
  obtain ⟨c, rest, rfl, hc, _⟩ := h
  rw [skipSpace_append hsp]
  exact skipSpace_cons (isSpace_of_isBlank hc)

theorem exists_budget {n : Nat} (h : n < fuel) : ∃ m, fuel = m + 1 ∧ n ≤ m :=
  ⟨fuel - 1, by omega, by omega⟩

/-- With this budget, what is read is read from pieces. -/
def Pieces {α : Type} (read : Nat → List Char → Except Stop (α × List Char)) (fuel : Nat) : Prop :=
  ∀ cs a after, read fuel cs = .ok (a, after) → ∃ pre, cs = pre ++ after ∧ Reads read pre a

/-- An item of a collection is read again from its piece. -/
structure ReadsItem (item : Nat → List Char → List Char → Prop) (pre : List Char) : Prop where
  opens : Opens pre
  again : ∀ tail fuel, Apart tail → pre.length ≤ fuel → item fuel (pre ++ tail) tail

section Parts

variable {α β : Type} {read : Nat → List Char → Except Stop (α × List Char)}
  {inner : Nat → List Char → Except Stop (β × List Char)} {a : α} {b : β}
  {item : Nat → List Char → List Char → Prop} {sp sp' pre : List Char} {opening close : Char}

/-- The last item, with the character that ends its collection. -/
theorem ReadsItem.last (h : ReadsItem item pre) (hsp : ∀ d ∈ sp, isSpace d = true)
    (hclose : isBlank close = false ∧ close.isDigit = false ∧ close ≠ '.' ∧ close ≠ 'e' ∧ close ≠ 'E')
    (hread : ∀ fuel cs rest after, item fuel cs rest → skipSpace rest = close :: after →
      read (fuel + 1) cs = .ok (a, after)) : Reads read (pre ++ (sp ++ [close])) a where
  opens := h.opens.append _
  closes := (closes_concat sp hclose.1).append pre
  again tail fuel _ hfuel := by
    rw [List.length_append, List.length_append, List.length_singleton] at hfuel
    obtain ⟨fuel, rfl, hlen⟩ := exists_budget (by omega : pre.length < fuel)
    rw [List.append_assoc, List.append_assoc, List.singleton_append]
    refine hread _ _ _ _ (h.again _ fuel (apart_space hsp (apart_cons hclose.2)) hlen) ?_
    exact skipSpace_eq_cons.2 ⟨sp, hsp, rfl, isSpace_of_isBlank hclose.1⟩

/-- An item with those that follow it. -/
theorem ReadsItem.more (h : ReadsItem item pre) (hsp : ∀ d ∈ sp, isSpace d = true)
    (hsp' : ∀ d ∈ sp', isSpace d = true) {others : List Char} (hothers : Reads inner others b)
    (hread : ∀ fuel cs rest more after, item fuel cs rest → skipSpace rest = ',' :: more →
      inner fuel (skipSpace more) = .ok (b, after) → read (fuel + 1) cs = .ok (a, after)) :
    Reads read (pre ++ (sp ++ ',' :: (sp' ++ others))) a where
  opens := h.opens.append _
  closes := (((hothers.closes.append sp').cons ',').append sp).append pre
  again tail fuel htail hfuel := by
    simp only [List.length_append, List.length_cons] at hfuel
    obtain ⟨fuel, rfl, hlen⟩ := exists_budget (by omega : pre.length + others.length < fuel)
    rw [List.append_assoc, List.append_assoc, List.cons_append, List.append_assoc]
    refine hread _ _ _ _ _
      (h.again _ fuel (apart_space hsp (apart_cons (by decide))) (by omega))
      (skipSpace_eq_cons.2 ⟨sp, hsp, rfl, by decide⟩) ?_
    rw [skipSpace_opens hsp' hothers.opens]
    exact hothers.again tail fuel htail (by omega)

/-- A collection without items. -/
theorem reads_empty (hopening : isBlank opening = false ∧ opening ≠ '\ufeff')
    (hclose : isBlank close = false) (hsp : ∀ d ∈ sp, isSpace d = true)
    (hread : ∀ fuel rest after, skipSpace rest = close :: after →
      read (fuel + 1) (opening :: rest) = .ok (a, after)) :
    Reads read (opening :: (sp ++ [close])) a where
  opens := opens_cons hopening
  closes := (closes_concat sp hclose).cons opening
  again tail fuel _ hfuel := by
    obtain ⟨fuel, rfl, _⟩ := exists_budget hfuel
    refine hread _ _ _ (skipSpace_eq_cons.2 ⟨sp, hsp, ?_, isSpace_of_isBlank hclose⟩)
    exact List.append_assoc sp [close] tail

/-- A collection with items. -/
theorem reads_within (hopening : isBlank opening = false ∧ opening ≠ '\ufeff')
    (hsp : ∀ d ∈ sp, isSpace d = true) (h : Reads inner pre b)
    (hhead : ∀ d ∈ pre.head?, d ≠ close)
    (hread : ∀ fuel rest after, (∀ d ∈ (skipSpace rest).head?, d ≠ close) →
      inner fuel (skipSpace rest) = .ok (b, after) →
        read (fuel + 1) (opening :: rest) = .ok (a, after)) :
    Reads read (opening :: (sp ++ pre)) a where
  opens := opens_cons hopening
  closes := (h.closes.append sp).cons opening
  again tail fuel htail hfuel := by
    obtain ⟨fuel, rfl, hlen⟩ := exists_budget hfuel
    rw [List.length_append] at hlen
    rw [List.cons_append, List.append_assoc]
    have hskip := skipSpace_opens hsp h.opens tail
    refine hread _ _ _ ?_ ?_
    · rwa [hskip, h.opens.head?_append]
    · rw [hskip]
      exact h.again tail fuel htail (by omega)

end Parts

theorem pieces_elements (hvalue : Pieces value fuel) (helements : Pieces elements fuel) :
    Pieces elements (fuel + 1) := by
  intro cs vs after h
  obtain ⟨v, rest, hv, hvs⟩ := elements_eq_ok.1 h
  obtain ⟨pre, rfl, hpre⟩ := hvalue _ _ _ hv
  have item : ReadsItem (fun fuel cs rest => value fuel cs = .ok (v, rest)) pre :=
    ⟨hpre.opens, hpre.again⟩
  rcases hvs with ⟨hrest, rfl⟩ | ⟨more, vs, hrest, hvs, rfl⟩
  · obtain ⟨sp, hsp, rfl, _⟩ := skipSpace_eq_cons.1 hrest
    refine ⟨pre ++ (sp ++ [']']), by simp, item.last hsp (by decide) fun _ _ _ _ hv hrest => ?_⟩
    exact elements_eq_ok.2 ⟨v, _, hv, .inl ⟨hrest, rfl⟩⟩
  · obtain ⟨sp, hsp, rfl, _⟩ := skipSpace_eq_cons.1 hrest
    obtain ⟨sp', hmore, hsp'⟩ := exists_skipSpace more
    obtain ⟨others, hothers, hagain⟩ := helements _ _ _ hvs
    refine ⟨pre ++ (sp ++ ',' :: (sp' ++ others)), ?_,
      item.more hsp hsp' hagain fun _ _ _ _ _ hv hrest hvs => ?_⟩
    · rw [hmore, hothers]
      simp
    · exact elements_eq_ok.2 ⟨v, _, hv, .inr ⟨_, vs, hrest, hvs, rfl⟩⟩

/-- A member is read again from its name and its value, with blanks around the colon. -/
theorem readsItem_member {word sp sp' pre : List Char} {name : String}
    (hname : ∀ start tail, string start (word ++ tail) = .ok (name, tail))
    (hsp : ∀ d ∈ sp, isSpace d = true) (hsp' : ∀ d ∈ sp', isSpace d = true)
    (hv : Reads value pre v) :
    ReadsItem (fun fuel cs rest => ReadsMember fuel cs name v rest)
      ('"' :: (word ++ (sp ++ ':' :: (sp' ++ pre)))) where
  opens := opens_cons (by decide)
  again tail fuel htail hfuel := by
    have hform : '"' :: (word ++ (sp ++ ':' :: (sp' ++ pre))) ++ tail =
        '"' :: (word ++ (sp ++ ':' :: (sp' ++ (pre ++ tail)))) := by simp
    rw [hform]
    simp only [List.length_cons, List.length_append] at hfuel
    refine ⟨_, _, _, rfl, hname _ _, skipSpace_eq_cons.2 ⟨sp, hsp, rfl, by decide⟩, ?_⟩
    rw [skipSpace_opens hsp' hv.opens]
    exact hv.again tail fuel htail (by omega)

theorem member_piece {name : String} (hvalue : Pieces value fuel)
    (h : ReadsMember fuel cs name v after) :
    ∃ pre, cs = pre ++ after ∧
      ReadsItem (fun fuel cs rest => ReadsMember fuel cs name v rest) pre := by
  obtain ⟨quoted, rest, more, rfl, hname, hrest, hv⟩ := h
  obtain ⟨word, rfl, _, hstring⟩ := string_piece hname
  obtain ⟨sp, hsp, rfl, _⟩ := skipSpace_eq_cons.1 hrest
  obtain ⟨sp', hmore, hsp'⟩ := exists_skipSpace more
  obtain ⟨pre, hpre, hagain⟩ := hvalue _ _ _ hv
  refine ⟨_, ?_, readsItem_member hstring hsp hsp' hagain⟩
  rw [hmore, hpre]
  simp

theorem pieces_members (hvalue : Pieces value fuel)
    (hmembers : ∀ seen, Pieces (fun fuel cs => members fuel cs seen) fuel)
    (seen : List (String × Json)) : Pieces (fun fuel cs => members fuel cs seen) (fuel + 1) := by
  intro cs ms after h
  obtain ⟨name, v, rest, hmember, hms⟩ := members_eq_ok.1 h
  obtain ⟨pre, rfl, item⟩ := member_piece hvalue hmember
  rcases hms with ⟨hrest, rfl⟩ | ⟨more, hrest, hms⟩
  · obtain ⟨sp, hsp, rfl, _⟩ := skipSpace_eq_cons.1 hrest
    refine ⟨pre ++ (sp ++ ['\x7d']), by simp, item.last hsp (by decide) fun _ _ _ _ hm hrest => ?_⟩
    exact members_eq_ok.2 ⟨name, v, _, hm, .inl ⟨hrest, rfl⟩⟩
  · obtain ⟨sp, hsp, rfl, _⟩ := skipSpace_eq_cons.1 hrest
    obtain ⟨sp', hmore, hsp'⟩ := exists_skipSpace more
    obtain ⟨others, hothers, hagain⟩ := hmembers _ _ _ _ hms
    refine ⟨pre ++ (sp ++ ',' :: (sp' ++ others)), ?_,
      item.more hsp hsp' hagain fun _ _ _ _ _ hm hrest hms => ?_⟩
    · rw [hmore, hothers]
      simp
    · exact members_eq_ok.2 ⟨name, v, _, hm, .inr ⟨_, hrest, hms⟩⟩

theorem pieces_value (helements : Pieces elements fuel)
    (hmembers : Pieces (fun fuel cs => members fuel cs []) fuel) : Pieces value (fuel + 1) := by
  intro cs v after h
  cases readsValue_of_value h with
  | str hs =>
      obtain ⟨pre, rfl, hcloses, hstring⟩ := string_piece hs
      refine ⟨'"' :: pre, rfl, opens_cons (by decide), hcloses.cons '"', fun tail fuel _ hfuel => ?_⟩
      obtain ⟨fuel, rfl, _⟩ := exists_budget hfuel
      exact ReadsValue.value_eq (.str (hstring _ tail))
  | noElements hrest =>
      obtain ⟨sp, hsp, rfl, _⟩ := skipSpace_eq_cons.1 hrest
      refine ⟨'[' :: (sp ++ [']']), by simp, reads_empty (by decide) (by decide) hsp ?_⟩
      exact fun _ _ _ hrest => ReadsValue.value_eq (.noElements hrest)
  | @arr rest _ vs hhead hvs =>
      obtain ⟨sp, hrest, hsp⟩ := exists_skipSpace rest
      obtain ⟨pre, hpre, hagain⟩ := helements _ _ _ hvs
      rw [hpre, hagain.opens.head?_append] at hhead
      refine ⟨'[' :: (sp ++ pre), by rw [hrest, hpre]; simp,
        reads_within (by decide) hsp hagain hhead ?_⟩
      exact fun _ _ _ hhead hvs => ReadsValue.value_eq (.arr hhead hvs)
  | noMembers hrest =>
      obtain ⟨sp, hsp, rfl, _⟩ := skipSpace_eq_cons.1 hrest
      refine ⟨'\x7b' :: (sp ++ ['\x7d']), by simp, reads_empty (by decide) (by decide) hsp ?_⟩
      exact fun _ _ _ hrest => ReadsValue.value_eq (.noMembers hrest)
  | @obj rest _ ms hhead hms =>
      obtain ⟨sp, hrest, hsp⟩ := exists_skipSpace rest
      obtain ⟨pre, hpre, hagain⟩ := hmembers _ _ _ hms
      rw [hpre, hagain.opens.head?_append] at hhead
      refine ⟨'\x7b' :: (sp ++ pre), by rw [hrest, hpre]; simp,
        reads_within (by decide) hsp hagain hhead ?_⟩
      exact fun _ _ _ hhead hms => ReadsValue.value_eq (.obj hhead hms)
  | @atom c rest _ _ hquote hbracket hbrace hv =>
      obtain ⟨pre, hcs, hread⟩ := atom_piece hv
      refine ⟨pre, hcs, hread.opens, hread.closes, fun tail fuel htail hfuel => ?_⟩
      obtain ⟨c', more, rfl, _⟩ := hread.opens
      obtain ⟨rfl, _⟩ := List.cons.inj hcs
      obtain ⟨fuel, rfl, _⟩ := exists_budget hfuel
      exact ReadsValue.value_eq (.atom hquote hbracket hbrace (hread.again tail _ htail (Nat.le_refl _)))

/-- Whatever the budget: the three readers call each other with a smaller one. -/
theorem pieces (fuel : Nat) : Pieces value fuel ∧ Pieces elements fuel ∧
    ∀ seen, Pieces (fun fuel cs => members fuel cs seen) fuel := by
  induction fuel with
  | zero =>
      refine ⟨fun cs v after h => ?_, fun cs vs after h => ?_, fun seen cs ms after h => ?_⟩
      · rw [value] at h
        cases h
      · rw [elements] at h
        cases h
      · dsimp only at h
        rw [members] at h
        cases h
  | succ fuel ih =>
      obtain ⟨hvalue, helements, hmembers⟩ := ih
      exact ⟨pieces_value helements (hmembers []), pieces_elements hvalue helements,
        pieces_members hvalue hmembers⟩

end Collections

/-! ## A text that is one value -/

theorem opens_isBlank {sp pre rest : List Char} (hsp : ∀ c ∈ sp, isBlank c = true)
    (h : Opens pre) : dropBlank (sp ++ (pre ++ rest)) = pre ++ rest := by
  obtain ⟨c, more, rfl, hc, _⟩ := h
  rw [dropBlank, List.dropWhile_append_of_pos hsp]
  exact List.dropWhile_cons_of_neg (by simp [hc])

/-- The blanks around a piece are what is stripped. -/
theorem strip_piece {sp pre post : List Char} (hsp : ∀ c ∈ sp, isBlank c = true)
    (hpost : ∀ c ∈ post, isBlank c = true) (hopens : Opens pre) (hcloses : Closes pre) :
    strip (sp ++ (pre ++ post)) = pre := by
  obtain ⟨init, c, rfl, hc⟩ := hcloses
  rw [strip, opens_isBlank hsp hopens, dropBlankEnd, List.reverse_append, List.reverse_append,
    List.dropWhile_append_of_pos (fun c hc => hpost c (List.mem_reverse.1 hc)),
    List.reverse_singleton, List.singleton_append, List.dropWhile_cons_of_neg (by simp [hc]),
    List.reverse_cons, List.reverse_reverse]

/-- A text is read when it is a value with blanks around it. -/
theorem read_eq_ok {text : String} {v : Json} : read text = .ok v ↔
    ∃ sp pre post, text.toList = sp ++ (pre ++ post) ∧ (∀ c ∈ sp, isSpace c = true) ∧
      (∀ c ∈ post, isSpace c = true) ∧ Reads value pre v := by
  constructor
  · intro h
    unfold read at h
    dsimp only at h
    split at h
    · cases h
    split at h
    · cases h
    next v after hv =>
    split at h
    · next hafter =>
        cases h
        obtain ⟨sp, hcs, hsp⟩ := exists_skipSpace text.toList
        obtain ⟨pre, hpre, hread⟩ := (pieces _).1 _ _ _ hv
        refine ⟨sp, pre, after, hpre ▸ hcs, hsp, ?_, hread⟩
        exact skipSpace_eq_nil.1 hafter
    · cases h
  · rintro ⟨sp, pre, post, htext, hsp, hpost, hread⟩
    have hpost' : skipSpace post = [] := skipSpace_eq_nil.2 hpost
    have hv : value (text.toList.length + 1) (skipSpace text.toList) = .ok (v, post) := by
      rw [htext, skipSpace_opens hsp hread.opens]
      refine hread.again post _ ?_ (by simp; omega)
      have := apart_space hpost apart_nil
      rwa [List.append_nil] at this
    unfold read
    dsimp only
    split
    · next rest hbom =>
        exfalso
        obtain ⟨c, more, rfl, _, hc⟩ := hread.opens
        rw [hbom] at htext
        cases sp with
        | nil => exact hc (List.cons.inj htext).1.symm
        | cons d sp =>
            have hd := hsp d List.mem_cons_self
            rw [← (List.cons.inj htext).1] at hd
            cases hd
    · rw [hv]
      dsimp only
      rw [hpost']

/-- The blanks around a value do not matter, also those that the reader does not know. -/
theorem read_strip {text : String} {v : Json} (h : read text = .ok v) :
    read (String.ofList (strip text.toList)) = .ok v := by
  obtain ⟨sp, pre, post, htext, hsp, hpost, hread⟩ := read_eq_ok.1 h
  refine read_eq_ok.2 ⟨[], pre, [], ?_, by simp, by simp, hread⟩
  rw [String.toList_ofList, htext, strip_piece (fun c hc => isBlank_of_isSpace (hsp c hc))
    (fun c hc => isBlank_of_isSpace (hpost c hc)) hread.opens hread.closes]
  simp

/-! ## Equal values -/

mutual

/-- Whether two values are equal. -/
def same : Json → Json → Bool
  | .null, .null => true
  | .bool a, .bool b => a = b
  | .int a, .int b => a = b
  | .float a, .float b => a = b
  | .str a, .str b => a = b
  | .arr as, .arr bs => sameItems as bs
  | .obj as, .obj bs => sameMembers as bs
  | _, _ => false

/-- Whether two lists of values are equal. -/
def sameItems : List Json → List Json → Bool
  | [], [] => true
  | a :: as, b :: bs => same a b && sameItems as bs
  | _, _ => false

/-- Whether two lists of members are equal. -/
def sameMembers : List (String × Json) → List (String × Json) → Bool
  | [], [] => true
  | (n, a) :: as, (m, b) :: bs => n = m && same a b && sameMembers as bs
  | _, _ => false

end

mutual

theorem same_iff : (a b : Json) → (same a b = true ↔ a = b)
  | .arr as, .arr bs => by rw [same, sameItems_iff as bs, Json.arr.injEq]
  | .obj as, .obj bs => by rw [same, sameMembers_iff as bs, Json.obj.injEq]
  | .null, b | .bool _, b | .int _, b | .float _, b | .str _, b => by cases b <;> simp [same]
  | .arr _, .null | .arr _, .bool _ | .arr _, .int _ | .arr _, .float _ | .arr _, .str _
  | .arr _, .obj _ | .obj _, .null | .obj _, .bool _ | .obj _, .int _ | .obj _, .float _
  | .obj _, .str _ | .obj _, .arr _ => by simp [same]

theorem sameItems_iff : (as bs : List Json) → (sameItems as bs = true ↔ as = bs)
  | [], [] => by simp [sameItems]
  | a :: as, b :: bs => by
      rw [sameItems, Bool.and_eq_true, same_iff a b, sameItems_iff as bs, List.cons.injEq]
  | [], _ :: _ | _ :: _, [] => by simp [sameItems]

theorem sameMembers_iff : (as bs : List (String × Json)) → (sameMembers as bs = true ↔ as = bs)
  | [], [] => by simp [sameMembers]
  | (n, a) :: as, (m, b) :: bs => by
      rw [sameMembers, Bool.and_eq_true, Bool.and_eq_true, same_iff a b, sameMembers_iff as bs,
        List.cons.injEq, Prod.mk.injEq, decide_eq_true_iff]
  | [], _ :: _ | _ :: _, [] => by simp [sameMembers]

end

instance : DecidableEq Json := fun a b => decidable_of_iff _ (same_iff a b)

end ManifestPolicy.Json
