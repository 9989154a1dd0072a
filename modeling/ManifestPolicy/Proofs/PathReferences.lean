import ManifestPolicy.Policy.Reference

/-!
# What a reference keeps of its path

Wildcard segments are rewritten one by one from the left, and a pass of this
kind could miss segments that overlap, or bring about new ones. Neither can
happen here. Two wildcards never overlap, since no bracket both opens and
closes one; and a rewritten path has its brackets where they were, with no new
star, so that a wildcard in it would have been one of the path
(`withAny_free`). All that changes is therefore the star of each wildcard, at
the place where it stood (`withAny_of_starAt`, `withAny_of_not_starAt`).

A reference is a rewritten path with the name of the input before it, unless
it is there. Texts that begin with the name and hold no wildcard are the
fixed points (`ofPath_eq_self_iff`), and every reference is one; so rewriting a
path before or after, or referring to a reference, makes no difference.
-/

namespace ManifestPolicy.Reference

variable {path : List Char}

/-- The segment that stands for every element of a list. -/
def wildcard : List Char := ['[', '*', ']']

/-- The star of a wildcard stands at this place of the path. -/
def StarAt (path : List Char) (i : Nat) : Prop :=
  ∃ before after, path = before ++ wildcard ++ after ∧ i = before.length + 1

/-! ## Where the stars are -/

theorem not_starAt_nil (i : Nat) : ¬ StarAt [] i := by
  rintro ⟨before, after, h, -⟩
  simp [wildcard] at h

theorem not_starAt_zero (path : List Char) : ¬ StarAt path 0 := by
  rintro ⟨before, after, -, h⟩
  omega

/-- A star stands behind the first character if a wildcard begins there, or if
it stands so in what follows. -/
theorem starAt_succ {c : Char} {i : Nat} :
    StarAt (c :: path) (i + 1) ↔ (i = 0 ∧ wildcard <+: c :: path) ∨ StarAt path i := by
  constructor
  · rintro ⟨before, after, h, hi⟩
    cases before with
    | nil => exact .inl ⟨by simpa using hi, after, h.symm⟩
    | cons d before =>
        injection h with _ h
        exact .inr ⟨before, after, h, by simpa using hi⟩
  · rintro (⟨rfl, after, h⟩ | ⟨before, after, rfl, rfl⟩)
    · exact ⟨[], after, h.symm, rfl⟩
    · exact ⟨c :: before, after, rfl, rfl⟩

theorem starAt_iff {i : Nat} :
    StarAt path (i + 1) ↔
      path[i]? = some '[' ∧ path[i + 1]? = some '*' ∧ path[i + 2]? = some ']' := by
  induction path generalizing i with
  | nil => simp [not_starAt_nil]
  | cons c path ih =>
      rw [starAt_succ]
      cases i with
      | zero =>
          rw [or_iff_left (not_starAt_zero path)]
          cases path with
          | nil => simp [wildcard]
          | cons d path => cases path <;> simp [wildcard, eq_comm]
      | succ i => simp [ih]

/-! ## Rewritten paths -/

theorem length_withAny (path : List Char) : (withAny path).length = path.length := by
  fun_induction withAny path with
  | case1 => rfl
  | case2 rest ih => simp only [List.length_cons, ih]
  | case3 c rest _ ih => simp only [List.length_cons, ih]

/-- Behind a character that begins no wildcard, the stars are those of the rest. -/
theorem starAt_cons {c : Char} {i : Nat}
    (h : ∀ rest, c = '[' → path = '*' :: ']' :: rest → False) :
    StarAt (c :: path) (i + 1) ↔ StarAt path i := by
  rw [starAt_succ]
  refine or_iff_right ?_
  rintro ⟨-, rest, hrest⟩
  injection hrest with hc hpath
  exact h rest hc.symm hpath.symm

/-- Behind a wildcard, the stars are those of the rest. -/
theorem starAt_behind {i : Nat} : StarAt (wildcard ++ path) (i + 3) ↔ StarAt path i := by
  show StarAt ('[' :: '*' :: ']' :: path) (i + 3) ↔ _
  rw [starAt_succ, starAt_succ, starAt_succ]
  simp [wildcard]

theorem withAny_of_starAt {i : Nat} (h : StarAt path i) : (withAny path)[i]? = some '_' := by
  fun_induction withAny path generalizing i with
  | case1 => exact absurd h (not_starAt_nil i)
  | case2 rest ih =>
      match i with
      | 0 => exact absurd h (not_starAt_zero _)
      | 1 => rfl
      | 2 => simpa using (starAt_iff.1 h).1
      | i + 3 => exact ih (starAt_behind.1 h)
  | case3 c rest hne ih =>
      cases i with
      | zero => exact absurd h (not_starAt_zero _)
      | succ i => exact ih ((starAt_cons hne).1 h)

theorem withAny_of_not_starAt {i : Nat} (h : ¬ StarAt path i) : (withAny path)[i]? = path[i]? := by
  fun_induction withAny path generalizing i with
  | case1 => rfl
  | case2 rest ih =>
      match i with
      | 0 => rfl
      | 1 => exact absurd ⟨[], rest, rfl, rfl⟩ h
      | 2 => rfl
      | i + 3 => exact ih fun hrest => h (starAt_behind.2 hrest)
  | case3 c rest hne ih =>
      cases i with
      | zero => rfl
      | succ i => exact ih fun hrest => h ((starAt_cons hne).2 hrest)

theorem StarAt.getElem? {i : Nat} (h : StarAt path i) : path[i]? = some '*' := by
  obtain ⟨before, after, rfl, rfl⟩ := h
  simp [wildcard]

/-- A rewritten path differs from the path at the stars of its wildcards, and nowhere else. -/
theorem withAny_ne_iff {i : Nat} : (withAny path)[i]? ≠ path[i]? ↔ StarAt path i := by
  constructor
  · intro hne
    exact Classical.byContradiction fun h => hne (withAny_of_not_starAt h)
  · intro h
    rw [withAny_of_starAt h, h.getElem?]
    decide

theorem withAny_eq_of_ne {i : Nat} {c : Char} (hc : c ≠ '_') (h : (withAny path)[i]? = some c) :
    path[i]? = some c := by
  by_cases hstar : StarAt path i
  · rw [withAny_of_starAt hstar, Option.some.injEq] at h
    exact absurd h.symm hc
  · rw [← withAny_of_not_starAt hstar, h]

theorem infix_iff_starAt : wildcard <:+: path ↔ ∃ i, StarAt path i := by
  constructor
  · rintro ⟨before, after, h⟩
    exact ⟨_, before, after, h.symm, rfl⟩
  · rintro ⟨i, before, after, h, -⟩
    exact ⟨before, after, h.symm⟩

/-- No wildcard is left in a rewritten path. -/
theorem withAny_free (path : List Char) : ¬ wildcard <:+: withAny path := by
  rw [infix_iff_starAt]
  rintro ⟨i, hstar⟩
  cases i with
  | zero => exact not_starAt_zero _ hstar
  | succ i =>
      -- Its three characters stand where they stood in the path, where the star is rewritten.
      obtain ⟨hopen, hmid, hclose⟩ := starAt_iff.1 hstar
      have hpath : StarAt path (i + 1) :=
        starAt_iff.2 ⟨withAny_eq_of_ne (by decide) hopen, withAny_eq_of_ne (by decide) hmid,
          withAny_eq_of_ne (by decide) hclose⟩
      rw [withAny_of_starAt hpath] at hmid
      exact absurd hmid (by decide)

theorem withAny_eq_self_iff : withAny path = path ↔ ¬ wildcard <:+: path := by
  constructor
  · intro h
    rw [← h]
    exact withAny_free path
  · intro h
    rw [infix_iff_starAt, not_exists] at h
    exact List.ext_getElem? fun i => withAny_of_not_starAt (h i)

theorem newline_mem_withAny : '\n' ∈ withAny path ↔ '\n' ∈ path := by
  fun_induction withAny path with
  | case1 => exact Iff.rfl
  | case2 rest ih => simp [ih]
  | case3 c rest _ ih => simp [ih]

/-! ## References -/

/-- A reference is the rewritten path, rooted if it was not. -/
theorem ofPath_cases (path : List Char) :
    (root <+: withAny path ∧ ofPath path = withAny path) ∨ ofPath path = root ++ withAny path := by
  unfold ofPath
  dsimp only
  split
  · next h => exact .inl ⟨List.isPrefixOf_iff_prefix.1 h, rfl⟩
  · exact .inr rfl

theorem root_prefix_ofPath (path : List Char) : root <+: ofPath path := by
  rcases ofPath_cases path with ⟨hroot, h⟩ | h
  · rw [h]
    exact hroot
  · rw [h]
    exact List.prefix_append _ _

theorem head?_ofPath (path : List Char) : (ofPath path).head? = some 'i' := by
  obtain ⟨rest, hrest⟩ := root_prefix_ofPath path
  rw [← hrest]
  rfl

theorem newline_mem_ofPath : '\n' ∈ ofPath path ↔ '\n' ∈ path := by
  rcases ofPath_cases path with ⟨-, h⟩ | h
  · rw [h, newline_mem_withAny]
  · rw [h, List.mem_append, newline_mem_withAny, or_iff_right (by decide)]

/-- A wildcard does not reach into a text without an opening bracket before it. -/
theorem infix_append_iff {front : List Char} (h : '[' ∉ front) :
    wildcard <:+: front ++ path ↔ wildcard <:+: path := by
  induction front with
  | nil => rfl
  | cons c front ih =>
      rw [List.mem_cons, not_or] at h
      rw [List.cons_append, List.infix_cons_iff, ih h.2]
      refine or_iff_right ?_
      rintro ⟨after, hafter⟩
      injection hafter with hc _
      exact h.1 hc

theorem ofPath_free (path : List Char) : ¬ wildcard <:+: ofPath path := by
  rcases ofPath_cases path with ⟨-, h⟩ | h
  · rw [h]
    exact withAny_free path
  · rw [h, infix_append_iff (by decide)]
    exact withAny_free path

/-- References to themselves are the rooted texts without a wildcard. -/
theorem ofPath_eq_self_iff : ofPath path = path ↔ root <+: path ∧ ¬ wildcard <:+: path := by
  constructor
  · intro h
    rw [← h]
    exact ⟨root_prefix_ofPath path, ofPath_free path⟩
  · rintro ⟨hroot, hfree⟩
    have hwith := withAny_eq_self_iff.2 hfree
    rw [ofPath, hwith]
    exact if_pos (List.isPrefixOf_iff_prefix.2 hroot)

theorem ofPath_ofPath (path : List Char) : ofPath (ofPath path) = ofPath path :=
  ofPath_eq_self_iff.2 ⟨root_prefix_ofPath path, ofPath_free path⟩

theorem withAny_ofPath (path : List Char) : withAny (ofPath path) = ofPath path :=
  withAny_eq_self_iff.2 (ofPath_free path)

theorem ofPath_withAny (path : List Char) : ofPath (withAny path) = ofPath path := by
  unfold ofPath
  rw [withAny_eq_self_iff.2 (withAny_free path)]

/-- Rewriting keeps the length of a path, leaves no wildcard, and changes the star of each wildcard
to a low line and nothing else. A reference begins with the name of the input, holds no wildcard,
and is its own reference; and it makes no difference whether wildcards are rewritten before a
reference is made, or after. -/
theorem reference_laws (path : String) :
    ((withAny path.toList).length = path.length ∧ ¬ wildcard <:+: withAny path.toList ∧
      (∀ i, (withAny path.toList)[i]? ≠ path.toList[i]? ↔ StarAt path.toList i) ∧
      ∀ i, StarAt path.toList i → (withAny path.toList)[i]? = some '_') ∧
    root <+: (ofString path).toList ∧ ¬ wildcard <:+: (ofString path).toList ∧
      ofString (ofString path) = ofString path ∧
      ofString (String.ofList (withAny path.toList)) = ofString path ∧
      String.ofList (withAny (ofString path).toList) = ofString path := by
  have hlength : (withAny path.toList).length = path.length :=
    (length_withAny _).trans String.length_toList
  refine ⟨⟨hlength, withAny_free _, fun i => withAny_ne_iff, fun i => withAny_of_starAt⟩, ?_⟩
  unfold ofString
  simp only [String.toList_ofList]
  exact ⟨root_prefix_ofPath _, ofPath_free _, congrArg String.ofList (ofPath_ofPath _),
    congrArg String.ofList (ofPath_withAny _), congrArg String.ofList (withAny_ofPath _)⟩

example : withAny "a[[*]*][*".toList = "a[[_]*][*".toList := by decide

end ManifestPolicy.Reference
