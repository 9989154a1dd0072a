import ManifestPolicy.FileSystem

/-!
# Paths as they are written

A tool is given paths as texts, and what it makes of them is what `ofString`
does. Parts that can be written are those without a slash that mean
something: they are what `ofString` keeps, and `join` keeps to them as well.
A path of such parts is written so that it can be read back
(`Path.ofString_text`).

One location can be written in several ways. `Respelled` lists them: a point
may be put in or left out, and so may a name with the way back from it, and a
path without a root may be written from the root of all files, as long as the
directory that it starts from is there. All of them lead to the same location
(`Respelled.sameEnd`).
-/

namespace ManifestPolicy

namespace Text

variable {sep : Char} {piece cs : List Char}

theorem splitAt_of_not_mem (h : sep ∉ cs) : splitAt sep cs = [cs] := by
  induction cs with
  | nil => rfl
  | cons c cs ih =>
      rw [List.mem_cons, not_or] at h
      rw [splitAt, if_neg (Ne.symm h.1), ih h.2]

theorem splitAt_append (h : sep ∉ piece) :
    splitAt sep (piece ++ sep :: cs) = piece :: splitAt sep cs := by
  induction piece with
  | nil => rw [List.nil_append, splitAt, if_pos rfl]
  | cons c piece ih =>
      rw [List.mem_cons, not_or] at h
      rw [List.cons_append, splitAt, if_neg (Ne.symm h.1), ih h.2]

/-- Pieces that are put together with the character between them come apart
again. -/
theorem splitAt_intercalate {pieces : List (List Char)} (hne : pieces ≠ [])
    (h : ∀ piece ∈ pieces, sep ∉ piece) :
    splitAt sep (List.intercalate [sep] pieces) = pieces := by
  induction pieces with
  | nil => exact absurd rfl hne
  | cons piece rest ih =>
      cases rest with
      | nil =>
          rw [List.intercalate_singleton]
          exact splitAt_of_not_mem (h piece List.mem_cons_self)
      | cons next rest =>
          rw [List.intercalate_cons_cons, List.append_assoc, List.singleton_append,
            splitAt_append (h piece List.mem_cons_self),
            ih (List.cons_ne_nil _ _) fun p hp => h p (List.mem_cons_of_mem _ hp)]

/-- And the pieces that a text comes apart into make it again. -/
theorem intercalate_splitAt (sep : Char) (cs : List Char) :
    List.intercalate [sep] (splitAt sep cs) = cs := by
  induction cs with
  | nil => rfl
  | cons c cs ih =>
      rw [splitAt]
      cases hs : splitAt sep cs with
      | nil => exact absurd hs (splitAt_ne_nil sep cs)
      | cons first rest =>
          rw [hs] at ih
          split
          · next hc => rw [List.intercalate_cons_cons, ih, hc, List.nil_append, List.singleton_append]
          · cases rest with
            | nil =>
                rw [List.intercalate_singleton] at ih ⊢
                rw [ih]
            | cons next rest =>
                rw [List.intercalate_cons_cons] at ih ⊢
                rw [List.append_assoc] at ih ⊢
                rw [List.cons_append, ih]

/-- A piece is a part of the text. -/
theorem infix_of_mem_splitAt (h : piece ∈ splitAt sep cs) : piece <:+: cs := by
  suffices h' : (∀ first rest, splitAt sep cs = first :: rest → first <+: cs) ∧
      ∀ piece ∈ splitAt sep cs, piece <:+: cs from h'.2 piece h
  clear h
  induction cs with
  | nil => simp [splitAt]
  | cons c cs ih =>
      obtain ⟨hfirst, hall⟩ := ih
      rw [splitAt]
      split
      · refine ⟨fun first rest e => ?_, fun piece hp => ?_⟩
        · injection e with e _
          rw [← e]
          exact List.nil_prefix
        · rcases List.mem_cons.1 hp with rfl | hp
          · exact List.nil_infix
          · exact List.infix_cons (hall piece hp)
      · split
        · next first rest hs =>
            have hprefix : c :: first <+: c :: cs :=
              List.cons_prefix_cons.2 ⟨rfl, hfirst first rest hs⟩
            refine ⟨fun first' rest' e => ?_, fun piece hp => ?_⟩
            · injection e with e _
              rw [← e]
              exact hprefix
            · rcases List.mem_cons.1 hp with rfl | hp
              · exact hprefix.isInfix
              · exact List.infix_cons (hall piece (by rw [hs]; exact List.mem_cons_of_mem _ hp))
        · next hs => exact absurd hs (splitAt_ne_nil sep cs)

theorem not_mem_of_mem_splitAt (h : piece ∈ splitAt sep cs) : sep ∉ piece := by
  induction cs generalizing piece with
  | nil =>
      rw [splitAt, List.mem_singleton] at h
      rw [h]
      exact List.not_mem_nil
  | cons c cs ih =>
      rw [splitAt] at h
      split at h
      · rcases List.mem_cons.1 h with rfl | h
        · exact List.not_mem_nil
        · exact ih h
      · next hc =>
          split at h
          · next first rest hs =>
              rw [hs] at ih
              rcases List.mem_cons.1 h with rfl | h
              · rw [List.mem_cons, not_or]
                exact ⟨Ne.symm hc, ih List.mem_cons_self⟩
              · exact ih (List.mem_cons_of_mem _ h)
          · rw [List.mem_singleton] at h
            rw [h, List.mem_singleton]
            exact Ne.symm hc

/-- The pieces on both sides of the character. -/
theorem splitAt_append_sep (cs ds : List Char) :
    splitAt sep (cs ++ sep :: ds) = splitAt sep cs ++ splitAt sep ds := by
  induction cs with
  | nil => simp [splitAt]
  | cons c cs ih =>
      rw [List.cons_append, splitAt, splitAt, ih]
      split
      · rfl
      · cases hs : splitAt sep cs with
        | nil => exact absurd hs (splitAt_ne_nil sep cs)
        | cons first rest => rfl

/-- Every other character is in one of the pieces. -/
theorem mem_splitAt (sep : Char) {c : Char} (h : c ∈ cs) :
    c = sep ∨ ∃ piece ∈ splitAt sep cs, c ∈ piece := by
  induction cs with
  | nil => cases h
  | cons d cs ih =>
      rw [splitAt]
      split
      · next hd =>
          rcases List.mem_cons.1 h with rfl | h
          · exact .inl hd
          · rcases ih h with hc | ⟨piece, hp, hc⟩
            · exact .inl hc
            · exact .inr ⟨piece, List.mem_cons_of_mem _ hp, hc⟩
      · split
        · next first rest hs =>
            rw [hs] at ih
            rcases List.mem_cons.1 h with rfl | h
            · exact .inr ⟨_, List.mem_cons_self, List.mem_cons_self⟩
            · rcases ih h with hc | ⟨piece, hp, hc⟩
              · exact .inl hc
              · rcases List.mem_cons.1 hp with rfl | hp
                · exact .inr ⟨_, List.mem_cons_self, List.mem_cons_of_mem _ hc⟩
                · exact .inr ⟨piece, List.mem_cons_of_mem _ hp, hc⟩
        · next hs => exact absurd hs (splitAt_ne_nil sep cs)

end Text

namespace Path

/-- Every part means something, and is one part. -/
def Readable (p : Path) : Prop :=
  ∀ part ∈ p.parts, part ≠ "" ∧ part ≠ "." ∧ '/' ∉ part.toList

theorem partsOf_readable {cs : List Char} {part : String} (h : part ∈ partsOf cs) :
    part ≠ "" ∧ part ≠ "." ∧ '/' ∉ part.toList := by
  obtain ⟨piece, hp, rfl⟩ := List.mem_map.1 h
  obtain ⟨hp, hkept⟩ := List.mem_filter.1 hp
  rw [Bool.and_eq_true, Bool.not_eq_true', bne_iff_ne, List.isEmpty_eq_false_iff] at hkept
  refine ⟨fun e => hkept.1 ?_, fun e => hkept.2 ?_, ?_⟩
  · rw [← String.toList_inj, String.toList_ofList] at e
    exact e
  · rw [← String.toList_inj, String.toList_ofList] at e
    exact e
  · rw [String.toList_ofList]
    exact Text.not_mem_of_mem_splitAt hp

theorem readable_ofString (s : String) : (ofString s).Readable := fun _ h => partsOf_readable h

theorem Readable.join {base : Path} (h : base.Readable) (s : String) :
    (base.join s).Readable := by
  unfold Path.join from_
  split
  · intro part hp
    rcases List.mem_append.1 hp with hp | hp
    · exact h part hp
    · exact readable_ofString s part hp
  · exact readable_ofString s

/-! ## Reading back -/

theorem partsOf_slash (cs : List Char) : partsOf ('/' :: cs) = partsOf cs := by
  simp only [partsOf, Text.splitAt, if_true]
  rfl

/-- What stands behind the root. -/
theorem partsOf_intercalate {parts : List String}
    (h : ∀ part ∈ parts, part ≠ "" ∧ part ≠ "." ∧ '/' ∉ part.toList) :
    partsOf (List.intercalate ['/'] (parts.map String.toList)) = parts := by
  cases parts with
  | nil => decide
  | cons first rest =>
      have hslash : ∀ piece ∈ (first :: rest).map String.toList, '/' ∉ piece := by
        intro piece hp
        obtain ⟨part, hpart, rfl⟩ := List.mem_map.1 hp
        exact (h part hpart).2.2
      have hkept : ∀ piece ∈ (first :: rest).map String.toList,
          (!piece.isEmpty && piece != ['.']) = true := by
        intro piece hp
        obtain ⟨part, hpart, rfl⟩ := List.mem_map.1 hp
        obtain ⟨hempty, hpoint, _⟩ := h part hpart
        rw [Bool.and_eq_true, Bool.not_eq_true', bne_iff_ne, List.isEmpty_eq_false_iff]
        refine ⟨fun e => hempty ?_, fun e => hpoint ?_⟩
        · rw [← String.toList_inj, e]; rfl
        · rw [← String.toList_inj, e]; rfl
      rw [partsOf, Text.splitAt_intercalate (by simp) hslash,
        List.filter_eq_self.2 hkept, List.map_map]
      exact (List.map_congr_left fun part _ => String.ofList_toList).trans (List.map_id _)

/-- Nothing that is written behind the root looks like another slash. -/
theorem head_intercalate {parts : List String}
    (h : ∀ part ∈ parts, part ≠ "" ∧ part ≠ "." ∧ '/' ∉ part.toList) :
    (List.intercalate ['/'] (parts.map String.toList)).head? ≠ some '/' := by
  cases parts with
  | nil => decide
  | cons first rest =>
      obtain ⟨hempty, _, hslash⟩ := h first List.mem_cons_self
      cases hf : first.toList with
      | nil => exact absurd (String.toList_inj.1 hf) hempty
      | cons c cs =>
          have hc : c ≠ '/' := by
            rintro rfl
            rw [hf] at hslash
            exact hslash List.mem_cons_self
          rw [List.map_cons, hf]
          cases rest with
          | nil => simpa using hc
          | cons next rest =>
              rw [List.map_cons, List.intercalate_cons_cons]
              simpa using hc

theorem rootOf_none {cs : List Char} (h : cs.head? ≠ some '/') : rootOf cs = .none := by
  unfold rootOf
  split
  · exact absurd rfl h
  · exact absurd rfl h
  · exact absurd rfl h
  · rfl

theorem rootOf_slash {cs : List Char} (h : cs.head? ≠ some '/') :
    rootOf ('/' :: cs) = .slash := by
  unfold rootOf
  split
  · rfl
  · next heq =>
      injection heq with _ heq
      rw [heq] at h
      exact absurd rfl h
  · rfl
  · next hne => exact absurd rfl (hne cs)

theorem rootOf_twoSlashes {cs : List Char} (h : cs.head? ≠ some '/') :
    rootOf ('/' :: '/' :: cs) = .twoSlashes := by
  unfold rootOf
  split
  · next heq =>
      injection heq with _ heq
      injection heq with _ heq
      rw [heq] at h
      exact absurd rfl h
  · rfl
  · next hne heq =>
      injection heq with _ heq
      exact (hne cs heq.symm).elim
  · next hne _ => exact (hne cs rfl).elim

/-- A path is read back as it was written. -/
theorem ofString_text {p : Path} (h : p.Readable) : ofString p.text = p := by
  obtain ⟨root, parts⟩ := p
  have hparts := partsOf_intercalate h
  have hhead := head_intercalate h
  have written (root : Root) : (root.text ++ "/".intercalate parts).toList =
      root.text.toList ++ List.intercalate ['/'] (parts.map String.toList) := by
    rw [String.toList_append, String.toList_intercalate]
    rfl
  generalize List.intercalate ['/'] (parts.map String.toList) = cs at hparts hhead written
  cases root with
  | none =>
      cases parts with
      | nil => decide
      | cons first rest =>
          have htext : (text ⟨.none, first :: rest⟩).toList = cs := written .none
          rw [ofString, htext, rootOf_none hhead, hparts]
  | slash =>
      have htext : (text ⟨.slash, parts⟩).toList = '/' :: cs := written .slash
      rw [ofString, htext, rootOf_slash hhead, partsOf_slash, hparts]
  | twoSlashes =>
      have htext : (text ⟨.twoSlashes, parts⟩).toList = '/' :: '/' :: cs := written .twoSlashes
      rw [ofString, htext, rootOf_twoSlashes hhead, partsOf_slash, partsOf_slash, hparts]

/-! ## One location spelled in several ways -/

theorem partsOf_append_slash (cs ds : List Char) :
    partsOf (cs ++ '/' :: ds) = partsOf cs ++ partsOf ds := by
  rw [partsOf, Text.splitAt_append_sep, List.filter_append, List.map_append]
  rfl

theorem rootOf_eq_none {cs : List Char} : rootOf cs = .none ↔ cs.head? ≠ some '/' := by
  refine ⟨fun h hhead => ?_, rootOf_none⟩
  obtain ⟨rest, rfl⟩ := List.head?_eq_some_iff.1 hhead
  unfold rootOf at h
  split at h
  · cases h
  · cases h
  · cases h
  · next hne => exact hne rest rfl

/-- Where a path starts depends on whether it has a root, not on which. -/
theorem locationFrom_eq (here : Location) (p : Path) :
    p.locationFrom here = follow (if p.root = .none then here else []) p.parts := by
  unfold locationFrom
  cases p.root <;> rfl

theorem follow_append (l : Location) (parts parts' : List String) :
    follow l (parts ++ parts') = follow (follow l parts) parts' := List.foldl_append

/-- What a way leads through stands in its start, or is one of its parts. -/
theorem mem_follow {at_ : Location} {parts : List String} {name : String}
    (h : name ∈ follow at_ parts) : name ∈ at_ ∨ name ∈ parts := by
  induction parts generalizing at_ with
  | nil => exact .inl h
  | cons part parts ih =>
      rw [follow, List.foldl_cons] at h
      rcases ih h with hat | hparts
      · split at hat
        · exact .inl ((List.dropLast_sublist at_).subset hat)
        · rcases List.mem_append.1 hat with hat | hpart
          · exact .inl hat
          · exact .inr (List.mem_cons.2 (.inl (List.mem_singleton.1 hpart)))
      · exact .inr (List.mem_cons_of_mem _ hparts)

/-- A way never leads to a name that would lead back. -/
theorem dots_not_mem_follow {at_ : Location} (h : ".." ∉ at_) (parts : List String) :
    ".." ∉ follow at_ parts := by
  induction parts generalizing at_ with
  | nil => exact h
  | cons part parts ih =>
      rw [follow, List.foldl_cons]
      refine ih ?_
      split
      · exact fun hmem => h ((List.dropLast_sublist at_).subset hmem)
      · next hpart =>
          rw [List.mem_append, List.mem_singleton, not_or]
          exact ⟨h, Ne.symm hpart⟩

/-- Parts that hold the same way, and a null character or not. -/
structure SameWay (parts parts' : List String) : Prop where
  null : hasNull ⟨.none, parts⟩ = hasNull ⟨.none, parts'⟩
  follow_eq (l : Location) : follow l parts = follow l parts'

theorem sameWay_of_eq {parts parts' : List String} (h : parts = parts') :
    SameWay parts parts' := by
  subst h
  exact ⟨rfl, fun _ => rfl⟩

/-- Two paths lead to the same location, or none does. -/
structure SameEnd (base : Base) (p p' : Path) : Prop where
  null : p.hasNull = p'.hasNull
  location : p.locationFrom base.here = p'.locationFrom base.here
  /-- Without the present directory, a path that starts from it leads nowhere. -/
  root : base.stranded = true → (p.root = .none ↔ p'.root = .none)

/-- Two paths lead to the same location if they hold the same way and start
from the same place. -/
theorem SameWay.sameEnd {p p' : Path} (h : SameWay p.parts p'.parts)
    (hroot : p.root = .none ↔ p'.root = .none) (base : Base) : SameEnd base p p' := by
  refine ⟨h.null, ?_, fun _ => hroot⟩
  rw [Path.locationFrom_eq, Path.locationFrom_eq, h.follow_eq]
  simp only [hroot]

/-- A name and the way back from it can be left out. -/
theorem sameWay_back {name : String} (hname : name ≠ "..") (hnull : '\x00' ∉ name.toList)
    (front parts : List String) :
    SameWay (front ++ name :: ".." :: parts) (front ++ parts) where
  null := by
    have hnull : name.toList.contains '\x00' = false := by simpa using hnull
    have hback : "..".toList.contains '\x00' = false := by decide
    simp only [hasNull, List.any_append, List.any_cons, hnull, hback, Bool.false_or]
  follow_eq l := by
    rw [follow_append, follow_append]
    simp only [follow, List.foldl_cons, if_neg hname, if_true, List.dropLast_concat]

/-- Names lead to the location that they are. -/
theorem follow_names {names : List String} (h : ".." ∉ names) (l : Location) :
    follow l names = l ++ names := by
  induction names generalizing l with
  | nil => exact (List.append_nil l).symm
  | cons name names ih =>
      rw [List.mem_cons, not_or] at h
      rw [follow, List.foldl_cons, if_neg (Ne.symm h.1)]
      refine (ih h.2 (l ++ [name])).trans ?_
      rw [List.append_assoc, List.singleton_append]

/-- Two spellings of one path, where a path without a root starts from the present directory. -/
inductive Respelled (base : Base) : Path → Path → Prop where
  | point (a b : String) :
      Respelled base (ofString (a ++ "/./" ++ b)) (ofString (a ++ "/" ++ b))
  | pointFirst {b : String} (relative : b.toList.head? ≠ some '/') :
      Respelled base (ofString ("./" ++ b)) (ofString b)
  | pointLast {a : String} (nonempty : a ≠ "") :
      Respelled base (ofString (a ++ "/.")) (ofString a)
  | back (root : Root) (front : List String) {name : String} (parts : List String)
      (hname : name ≠ "..") (hnull : '\x00' ∉ name.toList) :
      Respelled base ⟨root, front ++ name :: ".." :: parts⟩ ⟨root, front ++ parts⟩
  | absolute (p : Path) (names : ".." ∉ base.here)
      (hnull : (ofLocation base.here).hasNull = false) (there : base.stranded = false) :
      Respelled base (from_ (ofLocation base.here) p) p
  | symm {p p' : Path} : Respelled base p p' → Respelled base p' p
  | trans {p p' p'' : Path} :
      Respelled base p p' → Respelled base p' p'' → Respelled base p p''

theorem Respelled.sameEnd {base : Base} {p p' : Path} (h : Respelled base p p') :
    SameEnd base p p' := by
  have slash (a b : String) : (a ++ "/" ++ b).toList = a.toList ++ '/' :: b.toList := by
    rw [String.toList_append, String.toList_append, List.append_assoc]
    rfl
  induction h with
  | point a b =>
      have hpoint : (a ++ "/./" ++ b).toList = a.toList ++ '/' :: '.' :: '/' :: b.toList := by
        rw [String.toList_append, String.toList_append, List.append_assoc]
        rfl
      have hparts : partsOf ('.' :: '/' :: b.toList) = partsOf b.toList :=
        partsOf_append_slash ['.'] b.toList
      refine (sameWay_of_eq ?_).sameEnd ?_ base
      · simp only [ofString, slash, hpoint, partsOf_append_slash, hparts]
      · simp only [ofString, slash, hpoint, rootOf_eq_none, List.head?_append, List.head?_cons]
  | @pointFirst b relative =>
      have hpoint : ("./" ++ b).toList = ['.'] ++ '/' :: b.toList := String.toList_append
      refine (sameWay_of_eq ?_).sameEnd ?_ base
      · rw [ofString, ofString, hpoint, partsOf_append_slash]
        rfl
      · rw [ofString, ofString, hpoint, rootOf_eq_none, rootOf_eq_none]
        exact iff_of_true (by simp) relative
  | @pointLast a nonempty =>
      have hpoint : (a ++ "/.").toList = a.toList ++ '/' :: ['.'] := String.toList_append
      refine (sameWay_of_eq ?_).sameEnd ?_ base
      · rw [ofString, ofString, hpoint, partsOf_append_slash]
        exact List.append_nil _
      · obtain ⟨c, cs, hcs⟩ :=
          List.exists_cons_of_ne_nil fun e => nonempty (String.toList_inj.1 e)
        rw [ofString, ofString, hpoint, rootOf_eq_none, rootOf_eq_none, hcs]
        rfl
  | @back root front name parts hname hnull =>
      have hway : SameWay (Path.mk root (front ++ name :: ".." :: parts)).parts
          (Path.mk root (front ++ parts)).parts := sameWay_back hname hnull front parts
      exact hway.sameEnd Iff.rfl base
  | absolute p names hnull there =>
      refine ⟨?_, ?_, fun h => by rw [there] at h; cases h⟩
      all_goals obtain ⟨root, parts⟩ := p
      · cases root with
        | none =>
            have hnull : (ofLocation base.here).parts.any (·.toList.contains '\x00') = false := hnull
            simp only [from_, hasNull, List.any_append, hnull, Bool.false_or]
        | slash => rfl
        | twoSlashes => rfl
      · cases root with
        | none =>
            have hway : follow [] base.here = base.here := follow_names names []
            show follow [] (base.here ++ parts) = follow base.here parts
            rw [follow_append, hway]
        | slash => rfl
        | twoSlashes => rfl
  | symm _ ih => exact ⟨ih.null.symm, ih.location.symm, fun h => (ih.root h).symm⟩
  | trans _ _ ih ih' =>
      exact ⟨ih.null.trans ih'.null, ih.location.trans ih'.location,
        fun h => (ih.root h).trans (ih'.root h)⟩

end Path

end ManifestPolicy
