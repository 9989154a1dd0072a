import ManifestPolicy.Policy.File
import ManifestPolicy.Template.File

/-!
# What an operation on files leaves alone

Every operation that a run performs on the file system either writes one
file, be it in part, or makes directories. A `Frame` says so location by location: an entry
is what it was, or it is a file that was written at an admitted location, or
it is a directory that was made at an admitted location where nothing stood.
Nothing is ever removed and no directory ever stops being one, and this is
why a path that led somewhere goes on leading there: the way of a path is
read off the directories on it alone (`KeepsDirectories.locate`).

The admitted locations are those that a path leads to in the file system at
the end, so that frames of successive operations compose without naming the
file systems in between.
-/

namespace ManifestPolicy.FileSystem

/-! ## Entries -/

theorem find?_put (l m : Location) (e : Entry) (es : List (Location × Entry)) :
    ((put l e es).find? fun p => p.1 = m) =
      if m = l then some (m, e) else es.find? fun p => p.1 = m := by
  induction es with
  | nil =>
      by_cases h : m = l
      · rw [if_pos h]; subst h; simp [put]
      · rw [if_neg h]; simp [put, Ne.symm h]
  | cons p rest ih =>
      obtain ⟨k, f⟩ := p
      simp only [put]
      by_cases hk : k = l
      · rw [if_pos hk]
        subst hk
        by_cases h : m = k
        · rw [if_pos h]; subst h; simp
        · rw [if_neg h]
          simp [Ne.symm h]
      · rw [if_neg hk]
        by_cases h : k = m
        · subst h; rw [if_neg hk]; simp
        · rw [List.find?_cons_of_neg (by simpa using h), ih,
            List.find?_cons_of_neg (by simpa using h)]

theorem entry?_root (fs : FileSystem) : fs.entry? [] = some .directory := rfl

theorem entry?_set {fs : FileSystem} {l m : Location} {e : Entry} (hl : l ≠ []) :
    FileSystem.entry? (fs.set l e) m = if m = l then some e else fs.entry? m := by
  simp only [ entry?, set]
  by_cases hm : m = []
  · subst hm
    rw [if_pos rfl, if_pos rfl, if_neg (Ne.symm hl)]
  · rw [if_neg hm, if_neg hm, find?_put]
    split <;> rfl

theorem entry?_set_of_ne {fs : FileSystem} {l m : Location} {e : Entry} (h : m ≠ l) :
    FileSystem.entry? (fs.set l e) m = fs.entry? m := by
  simp only [ entry?, set, find?_put, if_neg h]

/-- A path that resolves names something, and leads there from a place that is there. -/
theorem resolve_ok_iff {fs : FileSystem} {p : Path} {l : Location} :
    fs.resolve p = .ok l ↔
      p.hasNull = false ∧ fs.isLost p = false ∧ p.locationFrom fs.base.here = l := by
  unfold resolve
  cases p.hasNull with
  | true => simp
  | false => cases fs.isLost p <;> simp

/-- What a path resolves to depends only on what nothing changes. -/
theorem resolve_congr {fs fs' : FileSystem} (h : fs'.base = fs.base) (p : Path) :
    fs'.resolve p = fs.resolve p := by
  have hlost : fs'.isLost p = fs.isLost p := by rw [isLost, h, isLost]
  rw [resolve, hlost, h, resolve]

/-! ## Frames -/

/-- The second file system has files written only at the first locations,
directories made only at the second ones, and is the same elsewhere. -/
structure Frame (written made : Location → Prop) (fs fs' : FileSystem) : Prop where
  base_eq : fs'.base = fs.base
  entry (l : Location) : fs'.entry? l = fs.entry? l ∨
    (written l ∧ fs.entry? l ≠ some .directory ∧ ∃ bytes, fs'.entry? l = some (.file bytes)) ∨
    (made l ∧ fs.entry? l = none ∧ fs'.entry? l = some .directory)

variable {written written' made made' : Location → Prop} {fs fs₁ fs₂ : FileSystem}

theorem Frame.refl (written made : Location → Prop) (fs : FileSystem) :
    Frame written made fs fs := ⟨rfl, fun _ => .inl rfl⟩

/-- A directory stays one. -/
theorem Frame.directory (h : Frame written made fs fs₁) {l : Location}
    (hl : fs.entry? l = some .directory) : fs₁.entry? l = some .directory := by
  obtain he | ⟨_, hne, _⟩ | ⟨_, hn, _⟩ := h.entry l
  · rw [he]; exact hl
  · exact absurd hl hne
  · rw [hl] at hn; cases hn

/-- What stands somewhere is not taken away. -/
theorem Frame.none_of_none (h : Frame written made fs fs₁) {l : Location}
    (hl : fs₁.entry? l = none) : fs.entry? l = none := by
  obtain he | ⟨_, _, _, hf⟩ | ⟨_, _, hd⟩ := h.entry l
  · rw [← he]; exact hl
  · rw [hl] at hf; cases hf
  · rw [hl] at hd; cases hd

theorem Frame.mono (h : Frame written made fs fs₁) (hw : ∀ l, written l → written' l)
    (hm : ∀ l, made l → made' l) : Frame written' made' fs fs₁ := by
  refine ⟨h.base_eq, fun l => ?_⟩
  obtain he | ⟨hl, he⟩ | ⟨hl, he⟩ := h.entry l
  · exact .inl he
  · exact .inr (.inl ⟨hw l hl, he⟩)
  · exact .inr (.inr ⟨hm l hl, he⟩)

theorem Frame.trans (h : Frame written made fs fs₁) (h' : Frame written made fs₁ fs₂) :
    Frame written made fs fs₂ := by
  refine ⟨h'.base_eq.trans h.base_eq, fun l => ?_⟩
  obtain he' | ⟨hw, hne, hf⟩ | ⟨hm, hn, hd⟩ := h'.entry l
  · rw [he']; exact h.entry l
  · exact .inr (.inl ⟨hw, fun hl => hne (h.directory hl), hf⟩)
  · exact .inr (.inr ⟨hm, h.none_of_none hn, hd⟩)

/-- Outside the admitted locations the same files hold the same bytes. -/
theorem Frame.file_iff (h : Frame written made fs fs₁) {l : Location} (hl : ¬ written l)
    (bytes : ByteArray) :
    fs₁.entry? l = some (.file bytes) ↔ fs.entry? l = some (.file bytes) := by
  obtain he | ⟨hw, _⟩ | ⟨_, hn, hd⟩ := h.entry l
  · rw [he]
  · exact absurd hw hl
  · rw [hn, hd]; simp

/-! ## Ways -/

/-- Every directory of the first file system is one of the second, and paths
start from the same place. -/
structure KeepsDirectories (fs fs' : FileSystem) : Prop where
  base_eq : fs'.base = fs.base
  directory {l : Location} : fs.entry? l = some .directory → fs'.entry? l = some .directory

theorem KeepsDirectories.trans (h : KeepsDirectories fs fs₁) (h' : KeepsDirectories fs₁ fs₂) :
    KeepsDirectories fs fs₂ := ⟨h'.base_eq.trans h.base_eq, fun hl => h'.directory (h.directory hl)⟩

theorem Frame.keepsDirectories (h : Frame written made fs fs₁) : KeepsDirectories fs fs₁ :=
  ⟨h.base_eq, h.directory⟩

theorem KeepsDirectories.walk (h : KeepsDirectories fs fs₁) {l : Location} :
    ∀ {parts : List String} {from_ : Location},
      fs.walk from_ parts = .ok l → fs₁.walk from_ parts = .ok l := by
  intro parts
  induction parts with
  | nil => intro from_ hw; rw [FileSystem.walk] at hw ⊢; exact hw
  | cons part rest ih =>
      intro from_ hw
      rw [FileSystem.walk] at hw ⊢
      split at hw
      · cases hw
      · cases hw
      · next hd =>
          rw [h.directory hd]
          simp only []
          split at hw
          · next hup => rw [if_pos hup]; exact ih hw
          · next hup =>
              rw [if_neg hup]
              split at hw
              · cases hw
              · next hlong => rw [if_neg hlong]; exact ih hw

/-- A path goes on leading to where it led. -/
theorem KeepsDirectories.locate (h : KeepsDirectories fs fs₁) {p : Path} {l : Location}
    (hl : fs.locate p = .ok l) : fs₁.locate p = .ok l := by
  have hs : fs₁.start p = fs.start p := by
    simp only [FileSystem.start, h.base_eq]
  have hlost : fs₁.isLost p = fs.isLost p := by
    simp only [isLost, h.base_eq]
  simp only [FileSystem.locate] at hl ⊢
  split at hl
  · cases hl
  · next hnull =>
      rw [if_neg hnull]
      split at hl
      · cases hl
      · next hlong =>
          rw [if_neg hlong, hlost, hs]
          split at hl
          · cases hl
          · next hfound =>
              rw [if_neg hfound]
              split at hl
              · next hw => rw [h.walk hw]; exact hl
              · cases hl

theorem Frame.locate (h : Frame written made fs fs₁) {p : Path} {l : Location}
    (hl : fs.locate p = .ok l) : fs₁.locate p = .ok l := h.keepsDirectories.locate hl

/-- The parts lead where they would lead if every name on the way were that
of a directory. -/
theorem follow_of_walk {l : Location} : ∀ {parts : List String} {from_ : Location},
    fs.walk from_ parts = .ok l → Path.follow from_ parts = l := by
  intro parts
  induction parts with
  | nil =>
      intro from_ hw
      rw [FileSystem.walk] at hw
      injection hw
  | cons part rest ih =>
      intro from_ hw
      rw [FileSystem.walk] at hw
      rw [Path.follow, List.foldl_cons]
      split at hw
      · cases hw
      · cases hw
      · split at hw
        · next hup => rw [if_pos hup]; exact ih hw
        · next hup =>
            rw [if_neg hup]
            split at hw
            · cases hw
            · exact ih hw

/-- A path can only lead to what it resolves to. -/
theorem resolve_of_locate {p : Path} {l : Location} (hl : fs.locate p = .ok l) :
    fs.resolve p = .ok l := by
  simp only [FileSystem.locate] at hl
  split at hl
  · cases hl
  · next hnull =>
      split at hl
      · cases hl
      · split at hl
        · cases hl
        · next hfound =>
            split at hl
            · next hw =>
                injection hl with hl
                refine resolve_ok_iff.2 ⟨by simpa using hnull, by simpa using hfound, ?_⟩
                rw [← hl, ← follow_of_walk hw]
                unfold Path.locationFrom start
                cases p.root <;> rfl
            · cases hl

/-! ## Reading -/

theorem readBytes_ok_iff {p : Path} {bytes : ByteArray} :
    fs.readBytes p = .ok bytes ↔
      ∃ l, fs.locate p = .ok l ∧ fs.entry? l = some (.file bytes) := by
  simp only [readBytes, status]
  cases hl : fs.locate p with
  | error e => simp
  | ok l =>
      cases he : fs.entry? l with
      | none => simp [he]
      | some e => cases e <;> simp [he]

/-! ## Writing a file -/

theorem set_file_frame (fs : FileSystem) {l : Location} (hl : fs.entry? l ≠ some .directory)
    (bytes : ByteArray) : Frame (· = l) made fs (fs.set l (.file bytes)) := by
  have hroot : l ≠ [] := fun h => hl (by rw [h]; exact fs.entry?_root)
  refine ⟨rfl, fun m => ?_⟩
  rw [entry?_set hroot]
  by_cases hm : m = l
  · subst hm
    rw [if_pos rfl]
    exact .inr (.inl ⟨rfl, hl, bytes, rfl⟩)
  · rw [if_neg hm]
    exact .inl rfl

/-- By the path of a file what was put there is read. -/
theorem readBytes_set_file {p : Path} {l : Location} (hl : fs.locate p = .ok l)
    (hd : fs.entry? l ≠ some .directory) (bytes : ByteArray) :
    (fs.set l (.file bytes)).readBytes p = .ok bytes := by
  have hroot : l ≠ [] := fun h => hd (by rw [h]; exact fs.entry?_root)
  have hset : Frame (· = l) (fun _ => False) fs (fs.set l (.file bytes)) := set_file_frame fs hd _
  exact readBytes_ok_iff.2 ⟨l, hset.locate hl, by rw [entry?_set hroot, if_pos rfl]⟩

theorem openFile_ok_iff {p : Path} {l : Location} :
    fs.openFile p = .ok l ↔ fs.locate p = .ok l ∧ fs.entry? l ≠ some .directory := by
  unfold openFile
  cases fs.locate p with
  | error e => simp
  | ok m =>
      dsimp only
      split
      · next hd => exact iff_of_false (fun e => by cases e) fun e => e.2 (by cases e.1; exact hd)
      · next hd =>
          rw [Except.ok.injEq]
          exact ⟨fun e => ⟨e, e ▸ hd⟩, fun e => e.1⟩

/-- A text is written to a file that could be opened, or nothing is done. -/
theorem writeText_cases (fs : FileSystem) (p : Path) (s : String) :
    (∃ e, fs.openFile p = .error e ∧ fs.writeText p s = (fs, some e)) ∨
      ∃ l, fs.locate p = .ok l ∧ fs.entry? l ≠ some .directory ∧
        fs.writeText p s = (fs.set l (.file (writing fs.base s).1), (writing fs.base s).2) := by
  unfold writeText
  cases h : fs.openFile p with
  | error e => exact .inl ⟨e, rfl, rfl⟩
  | ok l =>
      obtain ⟨hl, hd⟩ := openFile_ok_iff.1 h
      exact .inr ⟨l, hl, hd, rfl⟩

/-- Nothing went wrong with a text only if all of it was written. -/
theorem writing_none {base : Base} {s : String} (h : (writing base s).2 = none) :
    (writing base s).1 = s.toUTF8 := by
  unfold writing at h ⊢
  split
  · next he => rw [he] at h; cases h
  · next bytes he =>
      rw [he] at h
      rw [← Text.Utf8.encode_ok he]
      dsimp only at h ⊢
      split
      · rfl
      · next limit hlimit =>
          rw [hlimit] at h
          dsimp only at h
          split
          · rfl
          · next hlarge => rw [if_neg hlarge] at h; cases h

theorem writeText_frame (fs : FileSystem) (p : Path) (s : String) :
    Frame (fun l => (fs.writeText p s).1.locate p = .ok l) made fs (fs.writeText p s).1 := by
  rcases fs.writeText_cases p s with ⟨e, _, h⟩ | ⟨l, hl, hd, h⟩
  · rw [h]
    exact .refl _ _ _
  · rw [h]
    have hf : Frame (· = l) made fs (fs.set l (.file (writing fs.base s).1)) :=
      set_file_frame fs hd _
    exact hf.mono (fun m hm => by rw [hm]; exact hf.locate hl) fun _ hm => hm

/-- What was written is what is read. -/
theorem readBytes_writeText {p : Path} {s : String} (h : fs.writeText p s = (fs₁, none)) :
    fs₁.readBytes p = .ok s.toUTF8 := by
  rcases fs.writeText_cases p s with ⟨e, _, hw⟩ | ⟨l, hl, hd, hw⟩
  · rw [h] at hw
    cases hw
  · rw [h] at hw
    obtain ⟨rfl, hnone⟩ := Prod.mk.inj hw
    rw [readBytes_set_file hl hd, writing_none hnone.symm]

/-! ## Planting -/

theorem base_plant (fs : FileSystem) (e : Entry) (parts : List String) (from_ : Location) :
    (fs.plant e from_ parts).base = fs.base := by
  induction parts generalizing fs from_ with
  | nil => rfl
  | cons part rest ih =>
      rw [FileSystem.plant, ih]
      split <;> rfl

/-- An entry is planted at one location. Elsewhere at most a directory is made
where nothing stood. -/
theorem entry?_plant (fs : FileSystem) (e : Entry) (parts : List String) (from_ m : Location) :
    FileSystem.entry? (fs.plant e from_ parts) m = fs.entry? m ∨
      (fs.entry? m = none ∧ FileSystem.entry? (fs.plant e from_ parts) m = some .directory) ∨
      (m = from_ ++ parts ∧ FileSystem.entry? (fs.plant e from_ parts) m = some e) := by
  by_cases hm : m = []
  · -- The root is a directory whatever is listed.
    subst hm
    exact .inl rfl
  induction parts generalizing fs from_ with
  | nil =>
      rw [FileSystem.plant, List.append_nil]
      by_cases h : m = from_
      · refine .inr (.inr ⟨h, ?_⟩)
        rw [h, entry?_set (h ▸ hm), if_pos rfl]
      · exact .inl (entry?_set_of_ne h)
  | cons part rest ih =>
      rw [FileSystem.plant]
      generalize hfs : (if (fs.entry? from_).isSome then fs else fs.set from_ .directory) = fs'
      have hfirst : fs'.entry? m = fs.entry? m ∨
          fs.entry? m = none ∧ fs'.entry? m = some .directory := by
        rw [← hfs]
        split
        · exact .inl rfl
        · next hnone =>
            by_cases h : m = from_
            · refine .inr ⟨by simpa [h] using hnone, ?_⟩
              rw [h, entry?_set (h ▸ hm), if_pos rfl]
            · exact .inl (entry?_set_of_ne h)
      obtain he | ⟨hn, hd⟩ | ⟨hl, he⟩ := ih fs' (from_ ++ [part])
      · rw [he]
        exact hfirst.imp_right .inl
      · refine .inr (.inl ⟨?_, hd⟩)
        rcases hfirst with h | ⟨h, _⟩
        · rw [← h]
          exact hn
        · exact h
      · refine .inr (.inr ⟨?_, he⟩)
        rw [hl, List.append_assoc, List.singleton_append]

/-- Directories are kept if nothing else is planted where one was. -/
theorem KeepsDirectories.plant {fs fs' : FileSystem} (h : KeepsDirectories fs fs') {e : Entry}
    {m : Location} (hm : fs.entry? m = some .directory → e = .directory) :
    KeepsDirectories fs (fs'.plant e [] m) := by
  refine ⟨(fs'.base_plant e m []).trans h.base_eq, fun {l} hl => ?_⟩
  obtain he | ⟨_, hd⟩ | ⟨rfl, he⟩ := fs'.entry?_plant e m [] l
  · rw [he]
    exact h.directory hl
  · exact hd
  · rw [he, hm hl]

/-! ## Files that stay the same -/

/-- A location has the same file in both, or none in either. -/
structure SameFile (l : Location) (fs fs' : FileSystem) : Prop where
  base_eq : fs'.base = fs.base
  file_iff (bytes : ByteArray) :
    fs'.entry? l = some (.file bytes) ↔ fs.entry? l = some (.file bytes)

variable {l : Location} {fs' : FileSystem}

theorem SameFile.refl (l : Location) (fs : FileSystem) : SameFile l fs fs := ⟨rfl, fun _ => Iff.rfl⟩

theorem SameFile.trans (h : SameFile l fs fs₁) (h' : SameFile l fs₁ fs₂) : SameFile l fs fs₂ :=
  ⟨h'.base_eq.trans h.base_eq, fun bytes => (h'.file_iff bytes).trans (h.file_iff bytes)⟩

theorem SameFile.plant (h : SameFile l fs fs₁) (e : Entry) {m : Location} (hm : m ≠ l) :
    SameFile l fs (fs₁.plant e [] m) := by
  refine ⟨(fs₁.base_plant e m []).trans h.base_eq, fun bytes => ?_⟩
  rw [← h.file_iff]
  obtain he | ⟨hn, hd⟩ | ⟨hl, _⟩ := fs₁.entry?_plant e m [] l
  · rw [he]
  · rw [hn, hd]
    simp
  · exact absurd hl.symm hm

theorem Frame.sameFile (h : Frame written made fs fs') (hl : ¬ written l) : SameFile l fs fs' :=
  ⟨h.base_eq, h.file_iff hl⟩

/-! ## Making directories -/

/-- The location is one that the first parts of a path lead to. -/
def Above (root : Path.Root) (parts : List String) (fs : FileSystem) (l : Location) : Prop :=
  ∃ upper, upper <+: parts ∧ fs.locate ⟨root, upper⟩ = .ok l

theorem Above.frame {root : Path.Root} {parts : List String} {l : Location}
    (hl : Above root parts fs l) (h : Frame written made fs fs₁) : Above root parts fs₁ l := by
  obtain ⟨upper, hu, hl⟩ := hl
  exact ⟨upper, hu, h.locate hl⟩

theorem makeDirectory_frame {p : Path} (h : fs.makeDirectory p = .ok fs₁) :
    Frame written (Above p.root p.parts fs₁) fs fs₁ := by
  simp only [makeDirectory] at h
  split at h
  · cases h
  · next l hl =>
      split at h
      · cases h
      · next hn =>
          injection h with h
          subst h
          have hnone : fs.entry? l = none := by simpa using hn
          have hroot : l ≠ [] := fun e => by rw [e, entry?_root] at hnone; cases hnone
          have hf : Frame written (· = l) fs (fs.set l .directory) := by
            refine ⟨rfl, fun m => ?_⟩
            rw [entry?_set hroot]
            by_cases hm : m = l
            · subst hm
              rw [if_pos rfl]
              exact .inr (.inr ⟨rfl, hnone, rfl⟩)
            · rw [if_neg hm]
              exact .inl rfl
          refine hf.mono (fun _ hw => hw) fun m hm => ?_
          rw [hm]
          exact ⟨p.parts, List.prefix_refl _, hf.locate hl⟩

theorem ensureDirectory_frame (fs : FileSystem) (p : Path) :
    Frame written (Above p.root p.parts (fs.ensureDirectory p).1) fs (fs.ensureDirectory p).1 := by
  unfold ensureDirectory
  split
  · next h => exact makeDirectory_frame h
  · repeat' split
    all_goals exact Frame.refl _ _ _

/-- The one case that makes more than one directory is that of a parent that
is missing: then the parents are made first, and the attempt is repeated. -/
theorem ensureParts_frame (fs : FileSystem) (root : Path.Root) (parts : List String) :
    Frame written (Above root parts (fs.ensureParts root parts).1) fs
      (fs.ensureParts root parts).1 := by
  have first {fs' : FileSystem} {e : Option FileError}
      (h : fs.ensureDirectory ⟨root, parts⟩ = (fs', e)) :
      Frame written (Above root parts fs') fs fs' := by
    have hf : Frame written _ fs (fs.ensureDirectory ⟨root, parts⟩).1 :=
      ensureDirectory_frame fs ⟨root, parts⟩
    rw [h] at hf
    exact hf
  rw [ensureParts]
  split
  · next fs' p h =>
      split
      · exact first h
      · next hne =>
          have hshort : parts.dropLast.length < parts.length := by
            have := List.length_pos_iff.2 hne
            rw [List.length_dropLast]
            omega
          have upper : Frame written (Above root parts (fs'.ensureParts root parts.dropLast).1)
              fs' (fs'.ensureParts root parts.dropLast).1 :=
            (ensureParts_frame fs' root parts.dropLast).mono (fun _ hw => hw)
              fun l hl => by
                obtain ⟨ps, hps, hl⟩ := hl
                exact ⟨ps, hps.trans (List.dropLast_prefix parts), hl⟩
          split
          · next fs'' e hup =>
              rw [hup] at upper
              exact ((first h).mono (fun _ hw => hw) fun l hl => hl.frame upper).trans upper
          · next fs'' hup =>
              rw [hup] at upper
              have last : Frame written _ fs'' (fs''.ensureDirectory ⟨root, parts⟩).1 :=
                ensureDirectory_frame fs'' ⟨root, parts⟩
              have both := ((first h).mono (fun _ hw => hw) fun l hl => hl.frame upper).trans upper
              exact (both.mono (fun _ hw => hw) fun l hl => hl.frame last).trans last
  · exact first rfl
termination_by parts.length

end ManifestPolicy.FileSystem
