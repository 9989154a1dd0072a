import ManifestPolicy.Proofs.PolicyKept

/-!
# Files that are written again

What a run did to the files once it does to them again if it is repeated, and
the question is what comes of that. The second time everything is there
already: a file gets the bytes that it has (`set_unchanged`), and directories
that have been made are found (`ensureParts_ok`). Between its two writes a
run may stand before a file system that is neither the one it found nor the
one it left, since the plain document is put back before the policy is, and
both may be the same file; `Restores` is that file system.

One thing comes out differently. If directories cannot be made, but some of
them have been, then the next attempt fails further down the path, perhaps for
another reason (`ensureParts_again`).
-/

namespace ManifestPolicy

namespace FileSystem

variable {written made : Location → Prop} {fs fs' fs₁ g : FileSystem} {p : Path} {l : Location}
  {e : FileError}

/-! ## Entries -/

theorem put_put (l : Location) (e e' : Entry) (es : List (Location × Entry)) :
    put l e' (put l e es) = put l e' es := by
  induction es with
  | nil => simp [put]
  | cons p rest ih =>
      obtain ⟨k, f⟩ := p
      by_cases hk : k = l
      · simp [put, hk]
      · simp [put, hk, ih]

theorem set_set (fs : FileSystem) (l : Location) (e e' : Entry) :
    FileSystem.set (fs.set l e) l e' = fs.set l e' := by
  simp only [set, put_put]

theorem put_of_find? {l : Location} {p : Location × Entry} {es : List (Location × Entry)}
    (h : (es.find? fun p => p.1 = l) = some p) : put l p.2 es = es := by
  induction es with
  | nil => cases h
  | cons p' rest ih =>
      obtain ⟨k, f⟩ := p'
      by_cases hk : k = l
      · rw [List.find?_cons_of_pos (by simpa using hk)] at h
        injection h with h
        rw [← h, put, if_pos hk]
      · rw [List.find?_cons_of_neg (by simpa using hk)] at h
        rw [put, if_neg hk, ih h]

/-- Nothing changes where a file gets the bytes that it has. -/
theorem set_unchanged {bytes : ByteArray} (h : fs.entry? l = some (.file bytes)) :
    fs.set l (.file bytes) = fs := by
  unfold entry? at h
  split at h
  · cases h
  · obtain ⟨p, hfind, hp⟩ := Option.map_eq_some_iff.1 h
    rw [← hp, set, put_of_find? hfind]

/-! ## Reading -/

/-- The paths resolve to different locations, if they both resolve. -/
def Apart (fs : FileSystem) (p q : Path) : Prop :=
  ∀ l, fs.resolve p = .ok l → fs.resolve q ≠ .ok l

theorem Apart.of_locationFrom {q : Path}
    (h : p.locationFrom fs.base.here ≠ q.locationFrom fs.base.here) : fs.Apart p q :=
  fun _ hp hq => h ((resolve_ok_iff.1 hp).2.2.trans (resolve_ok_iff.1 hq).2.2.symm)

theorem Apart.of_base {q : Path} (h : fs.Apart p q) (hhere : fs'.base = fs.base) :
    fs'.Apart p q := by
  intro l hp hq
  rw [resolve_congr hhere] at hp hq
  exact h l hp hq

theorem Apart.locate_ne {q : Path} (h : fs.Apart p q) (hhere : fs'.base = fs.base)
    (hl : fs.locate p = .ok l) : fs'.locate q ≠ .ok l := by
  intro hq
  have hq := resolve_of_locate hq
  rw [resolve_congr hhere] at hq
  exact h l (resolve_of_locate hl) hq

/-- What was read is read again, if it was not written. -/
theorem Frame.reads {bytes : ByteArray} (h : Frame written made fs fs')
    (hr : fs.readBytes p = .ok bytes) (hp : ∀ l, fs.locate p = .ok l → ¬ written l) :
    fs'.readBytes p = .ok bytes := by
  obtain ⟨l, hl, he⟩ := readBytes_ok_iff.1 hr
  exact readBytes_ok_iff.2 ⟨l, h.locate hl, (h.file_iff (hp l hl) bytes).2 he⟩

/-- What can be read in the first file system is read in the second one as well. -/
def Reads (p : Path) (fs fs' : FileSystem) : Prop :=
  ∀ bytes, fs.readBytes p = .ok bytes → fs'.readBytes p = .ok bytes

theorem Reads.readText (h : Reads p fs fs') {text : String} (ht : fs.readText p = .ok text) :
    fs'.readText p = .ok text := by
  unfold FileSystem.readText at ht ⊢
  split at ht
  · cases ht
  · next hr =>
      rw [h _ hr]
      exact ht

/-! ## What is put back -/

/-- The third file system is the second one, or that with a file as it is in the first one. -/
def Restores (fs fs' g : FileSystem) : Prop :=
  g = fs' ∨ ∃ l bytes, fs.entry? l = some (.file bytes) ∧ g = fs'.set l (.file bytes)

/-- There is nothing to put back if no file was changed. -/
theorem Restores.eq (h : Restores fs fs' g) (hframe : Frame (fun _ => False) made fs fs') :
    g = fs' := by
  obtain hg | ⟨l, bytes, hl, hg⟩ := h
  · exact hg
  · rw [hg]
    exact set_unchanged ((hframe.file_iff id bytes).2 hl)

theorem Frame.file (h : Frame written made fs fs') {bytes : ByteArray}
    (hl : fs.entry? l = some (.file bytes)) : ∃ bytes', fs'.entry? l = some (.file bytes') := by
  obtain he | ⟨_, _, hf⟩ | ⟨_, hn, _⟩ := h.entry l
  · exact ⟨bytes, he.trans hl⟩
  · exact hf
  · rw [hl] at hn
    cases hn

theorem Restores.keepsDirectories (h : Restores fs fs' g) (hframe : Frame written made fs fs') :
    KeepsDirectories fs' g := by
  obtain hg | ⟨l, bytes, hl, hg⟩ := h
  · rw [hg]
    exact ⟨rfl, id⟩
  · obtain ⟨bytes', hl'⟩ := hframe.file hl
    have hne : fs'.entry? l ≠ some .directory := by
      rw [hl']
      simp
    have hset : Frame (· = l) (fun _ => True) fs' (fs'.set l (.file bytes)) :=
      set_file_frame fs' hne bytes
    rw [hg]
    exact hset.keepsDirectories

/-- What is read in both is read in the third one. -/
theorem Restores.reads (h : Restores fs fs' g) (hframe : Frame written made fs fs')
    (hp : Reads p fs fs') : Reads p fs g := by
  intro bytes hr
  obtain ⟨l, hl, he⟩ := readBytes_ok_iff.1 hr
  have hl' : fs'.locate p = .ok l := hframe.locate hl
  have he' : fs'.entry? l = some (.file bytes) := by
    obtain ⟨m, hm, hfile⟩ := readBytes_ok_iff.1 (hp bytes hr)
    rw [hl'] at hm
    injection hm with hm
    rw [hm]
    exact hfile
  refine readBytes_ok_iff.2 ⟨l, (h.keepsDirectories hframe).locate hl', ?_⟩
  obtain hg | ⟨m, bytes', hm, hg⟩ := h
  · rw [hg]
    exact he'
  · have hroot : m ≠ [] := by
      rintro rfl
      cases hm
    rw [hg, entry?_set hroot]
    split
    · next hlm =>
        rw [← hlm, he] at hm
        exact hm.symm
    · exact he'

/-- Where one file was written, and it is written again, there is nothing else to put back. -/
theorem Restores.set {bytes : ByteArray} (h : Restores fs fs' g)
    (hl : fs'.entry? l = some (.file bytes)) (hframe : Frame (· = l) made fs fs') :
    (∃ bytes', g.entry? l = some (.file bytes')) ∧ FileSystem.set g l (.file bytes) = fs' := by
  obtain hg | ⟨m, bytes', hm, hg⟩ := h
  · rw [hg]
    exact ⟨⟨bytes, hl⟩, set_unchanged hl⟩
  · by_cases hlm : m = l
    · have hroot : l ≠ [] := by
        rintro rfl
        cases hl
      rw [hg, hlm, entry?_set hroot, if_pos rfl, set_set]
      exact ⟨⟨bytes', rfl⟩, set_unchanged hl⟩
    · have hm' : fs'.entry? m = some (.file bytes') := (hframe.file_iff hlm bytes').2 hm
      rw [hg, set_unchanged hm']
      exact ⟨⟨bytes, hl⟩, set_unchanged hl⟩

theorem writeText_of_file {bytes : ByteArray} (text : String) (hl : fs.locate p = .ok l)
    (he : fs.entry? l = some (.file bytes)) :
    fs.writeText p text =
      (fs.set l (.file (writing fs.base text).1), (writing fs.base text).2) := by
  have hopen : fs.openFile p = .ok l := openFile_ok_iff.2 ⟨hl, by rw [he]; simp⟩
  simp only [writeText, hopen]

/-- A text that could be written can be. -/
theorem writing_of_writeText {text : String} (h : fs.writeText p text = (fs', none)) :
    writing fs'.base text = (text.toUTF8, none) := by
  rcases fs.writeText_cases p text with ⟨e, _, hw⟩ | ⟨l, _, _, hw⟩
  · rw [h] at hw
    cases hw
  · rw [h] at hw
    obtain ⟨rfl, hnone⟩ := Prod.mk.inj hw
    exact Prod.ext (writing_none hnone.symm) hnone.symm

/-- A text that was written to a file is written to it again. -/
theorem writeText_again {text : String} {r : Option FileError}
    (h : fs.writeText p text = (fs', r)) : fs'.writeText p text = (fs', r) := by
  rcases fs.writeText_cases p text with ⟨e, _, hw⟩ | ⟨l, hl, hd, hw⟩
  · rw [hw] at h
    cases h
    exact hw
  · rw [hw] at h
    obtain ⟨rfl, hr⟩ := Prod.mk.inj h
    obtain ⟨m, hm, he⟩ := readBytes_ok_iff.1 (readBytes_set_file hl hd (writing fs.base text).1)
    rw [writeText_of_file text hm he]
    exact Prod.ext (set_unchanged he) hr

/-! ## Directories -/

theorem locate_error (h : fs.locate p = .error e) :
    p.hasNull = true ∨ ∃ fault, e = .system fault p := by
  unfold locate at h
  split at h
  · next hnull => exact .inl hnull
  · split at h
    · cases h
      exact .inr ⟨_, rfl⟩
    · split at h
      · cases h
        exact .inr ⟨_, rfl⟩
      · split at h
        · cases h
        · cases h
          exact .inr ⟨_, rfl⟩

theorem status_error (h : fs.status p = .error e) :
    p.hasNull = true ∨ ∃ fault, e = .system fault p := by
  unfold status at h
  split at h
  · next hl =>
      injection h with h
      rw [← h]
      exact locate_error hl
  · split at h
    · cases h
    · cases h
      exact .inr ⟨_, rfl⟩

theorem isDirectory_ok (h : fs.isDirectory p = .ok true) :
    ∃ l, fs.locate p = .ok l ∧ fs.entry? l = some .directory := by
  obtain ⟨entry, hentry, hd⟩ := map_eq_ok.1 h
  have hd : entry = some .directory := of_decide_eq_true hd
  rw [hd] at hentry
  unfold status? at hentry
  split at hentry
  · next hs =>
      injection hentry with hentry
      injection hentry with hentry
      rw [hentry] at hs
      unfold status at hs
      split at hs
      · cases hs
      · next l hl =>
          split at hs
          · next he =>
              injection hs with hs
              rw [hs] at he
              exact ⟨l, hl, he⟩
          · cases hs
  all_goals cases hentry

theorem isDirectory_error (h : fs.isDirectory p = .error e) :
    p.hasNull = true ∨ ∃ fault, e = .system fault p := by
  have h := map_eq_error.1 h
  unfold status? at h
  split at h
  · cases h
  · cases h
  · cases h
  · cases h
  · next hs =>
      injection h with h
      rw [h] at hs
      exact status_error hs

theorem makeDirectory_ok (h : fs.makeDirectory p = .ok fs') :
    ∃ l, fs.locate p = .ok l ∧ fs.entry? l = none ∧ fs'.locate p = .ok l ∧
      fs'.entry? l = some .directory := by
  have hframe : Frame (fun _ => False) _ fs fs' := makeDirectory_frame h
  simp only [makeDirectory] at h
  split at h
  · cases h
  · next l hl =>
      split at h
      · cases h
      · next hnone =>
          injection h with h
          have hnone : fs.entry? l = none := by simpa using hnone
          have hroot : l ≠ [] := by
            rintro rfl
            cases hnone
          refine ⟨l, hl, hnone, hframe.locate hl, ?_⟩
          rw [← h, entry?_set hroot, if_pos rfl]

theorem makeDirectory_error (h : fs.makeDirectory p = .error e) :
    p.hasNull = true ∨ ∃ fault, e = .system fault p := by
  unfold makeDirectory at h
  split at h
  · next hl =>
      injection h with h
      rw [← h]
      exact locate_error hl
  · split at h
    · cases h
      exact .inr ⟨_, rfl⟩
    · cases h

/-- What comes of making a directory: it is made, it was there, or it is refused. -/
theorem ensureDirectory_cases (fs : FileSystem) (p : Path) :
    (∃ l fs', fs.ensureDirectory p = (fs', none) ∧ fs.locate p = .ok l ∧ fs.entry? l = none ∧
      fs'.locate p = .ok l ∧ fs'.entry? l = some .directory) ∨
    (∃ l, fs.ensureDirectory p = (fs, none) ∧ fs.locate p = .ok l ∧
      fs.entry? l = some .directory) ∨
    ∃ e, fs.ensureDirectory p = (fs, some e) ∧
      (p.hasNull = true ∨ ∃ fault, e = .system fault p) := by
  unfold ensureDirectory
  split
  · next fs' hmake =>
      obtain ⟨l, hl, hn, hl', hd⟩ := makeDirectory_ok hmake
      exact .inl ⟨l, fs', rfl, hl, hn, hl', hd⟩
  · next e hmake =>
      have he := makeDirectory_error hmake
      split
      · exact .inr (.inr ⟨_, rfl, he⟩)
      · split
        · next hdir =>
            obtain ⟨l, hl, hd⟩ := isDirectory_ok hdir
            exact .inr (.inl ⟨l, rfl, hl, hd⟩)
        · exact .inr (.inr ⟨_, rfl, he⟩)
        · next hdir => exact .inr (.inr ⟨_, rfl, isDirectory_error hdir⟩)
      · exact .inr (.inr ⟨_, rfl, he⟩)

variable {root : Path.Root} {parts : List String}

theorem ensureDirectory_ok (h : fs.ensureDirectory p = (fs', none)) :
    ∃ l, fs'.locate p = .ok l ∧ fs'.entry? l = some .directory := by
  obtain ⟨l, _, he, _, _, hl, hd⟩ | ⟨l, he, hl, hd⟩ | ⟨_, he, _⟩ := fs.ensureDirectory_cases p
  · rw [he] at h
    cases h
    exact ⟨l, hl, hd⟩
  · rw [he] at h
    cases h
    exact ⟨l, hl, hd⟩
  · rw [he] at h
    cases h

/-- Directories that have been made, or that were there, are found. -/
theorem ensureParts_ok (h : fs.ensureParts root parts = (fs', none)) :
    ∃ l, fs'.locate ⟨root, parts⟩ = .ok l ∧ fs'.entry? l = some .directory := by
  rw [ensureParts] at h
  split at h
  · split at h
    · cases h
    · split at h
      · cases h
      · exact ensureDirectory_ok h
  · exact ensureDirectory_ok h

theorem ensureParts_of_directory (hl : fs.locate ⟨root, parts⟩ = .ok l)
    (hd : fs.entry? l = some .directory) : fs.ensureParts root parts = (fs, none) := by
  rw [ensureParts, ensureDirectory_of_directory hl hd]

/-- Nothing is made if neither the directory itself nor those above it are. -/
theorem ensureParts_still (hdir : (fs.ensureDirectory ⟨root, parts⟩).1 = fs)
    (habove : parts ≠ [] → (fs.ensureParts root parts.dropLast).1 = fs) :
    (fs.ensureParts root parts).1 = fs := by
  rw [ensureParts]
  split
  · next hfirst =>
      rw [hfirst] at hdir
      split
      · exact hdir
      · next hne =>
          have habove := habove hne
          dsimp only at hdir
          subst hdir
          split
          · next hupper =>
              rw [hupper] at habove
              exact habove
          · next hupper =>
              rw [hupper] at habove
              dsimp only at habove
              rw [habove, hfirst]
  · exact hdir

/-- Making directories again makes no more of them. -/
theorem ensureParts_ensureParts (fs : FileSystem) (root : Path.Root) (parts : List String) :
    (FileSystem.ensureParts (fs.ensureParts root parts).1 root parts).1 =
      (fs.ensureParts root parts).1 := by
  have found {fs fs' : FileSystem} {parts : List String}
      (h : fs.ensureDirectory ⟨root, parts⟩ = (fs', none)) :
      (fs'.ensureParts root parts).1 = fs' := by
    obtain ⟨l, hl, hd⟩ := ensureDirectory_ok h
    rw [ensureParts_of_directory hl hd]
  fun_induction ensureParts fs root parts with
  | case1 fs fs' p hfirst =>
      obtain ⟨rfl, _⟩ := ensureDirectory_error hfirst
      exact ensureParts_still (by rw [hfirst]) fun h => absurd rfl h
  | case2 fs parts fs' p hfirst hne fs'' e hupper ih =>
      rw [hupper] at ih
      refine ensureParts_still ?_ fun _ => ih
      -- What is not there cannot be made before the directories above it are.
      obtain ⟨l, _, _, hl, _⟩ | ⟨_, he, _⟩ | ⟨_, he, _⟩ :=
        fs''.ensureDirectory_cases ⟨root, parts⟩
      · obtain ⟨m, hm, hd⟩ := locate_parent hl hne
        exact absurd hd ((ensureParts_error fs' hupper).2 m hm)
      · rw [he]
      · rw [he]
  | case3 fs parts fs' p hfirst hne fs'' hupper ih =>
      rw [hupper] at ih
      rcases hlast : fs''.ensureDirectory ⟨root, parts⟩ with ⟨fs₁, _ | e⟩
      · exact found hlast
      · obtain ⟨rfl, _⟩ := ensureDirectory_error hlast
        exact ensureParts_still (by rw [hlast]) fun _ => ih
  | case4 fs parts hother =>
      rcases hfirst : fs.ensureDirectory ⟨root, parts⟩ with ⟨fs₁, _ | e⟩
      · exact found hfirst
      · obtain ⟨rfl, _⟩ := ensureDirectory_error hfirst
        rw [ensureParts]
        split
        · next h => exact absurd h (hother _ _)
        · rw [hfirst]

/-- Where more is there than before, a directory has been made. -/
theorem ensureParts_made (fs : FileSystem) (root : Path.Root) (parts : List String) :
    (fs.ensureParts root parts).1 = fs ∨ ∃ l, fs.entry? l = none ∧
      FileSystem.entry? (fs.ensureParts root parts).1 l = some .directory := by
  have first (fs : FileSystem) (parts : List String) :
      (fs.ensureDirectory ⟨root, parts⟩).1 = fs ∨ ∃ l, fs.entry? l = none ∧
        FileSystem.entry? (fs.ensureDirectory ⟨root, parts⟩).1 l = some .directory := by
    obtain ⟨l, fs', he, _, hn, _, hd⟩ | ⟨_, he, _⟩ | ⟨_, he, _⟩ :=
      fs.ensureDirectory_cases ⟨root, parts⟩
    · rw [he]
      exact .inr ⟨l, hn, hd⟩
    · rw [he]
      exact .inl rfl
    · rw [he]
      exact .inl rfl
  fun_induction ensureParts fs root parts with
  | case1 fs fs' p hfirst =>
      obtain ⟨rfl, _⟩ := ensureDirectory_error hfirst
      exact .inl rfl
  | case2 fs parts fs' p hfirst hne fs'' e hupper ih =>
      obtain ⟨rfl, _⟩ := ensureDirectory_error hfirst
      rw [hupper] at ih
      exact ih
  | case3 fs parts fs' p hfirst hne fs'' hupper ih =>
      obtain ⟨rfl, _⟩ := ensureDirectory_error hfirst
      rw [hupper] at ih
      obtain rfl | ⟨l, hn, hd⟩ := ih
      · exact first fs'' parts
      · have hframe : Frame (fun _ => False) _ fs'' _ := ensureDirectory_frame fs'' ⟨root, parts⟩
        exact .inr ⟨l, hn, hframe.directory hd⟩
  | case4 fs parts hother => exact first fs parts

theorem ensureDirectory_refused (h : fs.ensureDirectory p = (fs', some e))
    (hnull : p.hasNull = false) : ∃ fault, e = .system fault p := by
  obtain ⟨_, _, he, _⟩ | ⟨_, he, _⟩ | ⟨e', he, hkind⟩ := fs.ensureDirectory_cases p
  · rw [he] at h
    cases h
  · rw [he] at h
    cases h
  · rw [he] at h
    cases h
    exact hkind.resolve_left (by rw [hnull]; decide)

/-- Directories are refused by the system, unless their path names nothing. -/
theorem ensureParts_refused (h : fs.ensureParts root parts = (fs', some e))
    (hnull : (Path.mk root parts).hasNull = false) : ∃ fault path, e = .system fault path := by
  have first {fs : FileSystem} {parts : List String} (hnull : (Path.mk root parts).hasNull = false)
      (h : fs.ensureDirectory ⟨root, parts⟩ = (fs', some e)) :
      ∃ fault path, e = .system fault path := by
    obtain ⟨fault, he⟩ := ensureDirectory_refused h hnull
    exact ⟨fault, _, he⟩
  fun_induction ensureParts fs root parts with
  | case1 => exact first hnull (by rw [← h]; assumption)
  | case2 fs parts fs₁ p hfirst hne fs₂ e' hupper ih =>
      refine ih (hupper.trans h) ?_
      unfold Path.hasNull at hnull ⊢
      rw [List.any_eq_false] at hnull ⊢
      exact fun part hp => hnull part (List.dropLast_subset _ hp)
  | case3 fs parts fs₁ p hfirst hne fs₂ hupper ih => exact first hnull h
  | case4 fs parts hother => exact first hnull h

theorem ensureParts_of_null (fs : FileSystem) (hnull : (Path.mk root parts).hasNull = true) :
    (fs.ensureParts root parts).1 = fs := by
  have hmake : fs.makeDirectory ⟨root, parts⟩ = .error .nullInPath := by
    simp only [makeDirectory, locate, if_pos hnull]
  rw [ensureParts]
  simp only [ensureDirectory, hmake]

/-- Directories that could not be made cannot be made after that. They are refused as before,
or else some have been made, and it is the system that refuses, both times. -/
theorem ensureParts_again (h : fs.ensureParts root parts = (fs', some e)) :
    fs'.ensureParts root parts = (fs', some e) ∨
      (∃ l, fs.entry? l = none ∧ fs'.entry? l = some .directory) ∧
        ∃ fault path fault' path', e = .system fault path ∧
          fs'.ensureParts root parts = (fs', some (.system fault' path')) := by
  have hmade := ensureParts_made fs root parts
  have hstill := ensureParts_ensureParts fs root parts
  rw [h] at hmade hstill
  obtain rfl | hmade := hmade
  · exact .inl h
  · cases hnull : (Path.mk root parts).hasNull with
    | true =>
        have hnone := ensureParts_of_null fs hnull
        rw [h] at hnone
        subst hnone
        exact .inl h
    | false =>
        refine .inr ⟨hmade, ?_⟩
        obtain ⟨fault, path, he⟩ := ensureParts_refused h hnull
        rcases hagain : fs'.ensureParts root parts with ⟨fs₂, _ | e'⟩
        · rw [hagain] at hstill
          subst hstill
          obtain ⟨l, hl, hd⟩ := ensureParts_ok hagain
          exact absurd hd ((ensureParts_error fs h).2 l hl)
        · rw [hagain] at hstill
          subst hstill
          obtain ⟨fault', path', he'⟩ := ensureParts_refused hagain hnull
          exact ⟨fault, path, fault', path', he, by rw [he']⟩

end FileSystem

/-! ## The two files -/

open FileSystem

variable {written made : Location → Prop} {fs fs' g : FileSystem}

/-- A template that was made plain, or could not be, is made plain again as it was, or cannot be as
it could not, in what has come of the files since. If it could not be made plain, nothing has. -/
theorem Template.sanitizeFile_again {t : SanitizerSettings} {document : Path}
    {fs₁ : FileSystem} {r : Except Trouble Path} (h : sanitizeFile t fs document = (fs₁, r))
    (hframe : Frame written made fs₁ fs') (hreads : Reads document fs fs')
    (hfailed : ∀ e, r = .error e → fs' = fs₁) :
    ∃ g, sanitizeFile t fs' document = (g, r) ∧ Restores fs₁ fs' g ∧
      ∀ plain, r = .ok plain → Reads plain fs₁ g := by
  unfold sanitizeFile at h
  split at h
  · next hread =>
      cases h
      obtain rfl := hfailed _ rfl
      exact ⟨fs', by simp only [sanitizeFile, hread], .inl rfl, fun _ hr => by cases hr⟩
  · next text htext =>
      dsimp only at h
      split at h
      · next hwrite =>
          cases h
          obtain rfl := hfailed _ rfl
          refine ⟨fs', ?_, .inl rfl, fun _ hr => by cases hr⟩
          simp only [sanitizeFile, hreads.readText htext, writeText_again hwrite]
      · next hwrite =>
          cases h
          have hplain := readBytes_writeText hwrite
          obtain ⟨l, hl, hfile⟩ := readBytes_ok_iff.1 hplain
          obtain ⟨bytes, hfile'⟩ := hframe.file hfile
          have hagain := writeText_of_file (sanitize t text) (hframe.locate hl) hfile'
          rw [hframe.base_eq, writing_of_writeText hwrite] at hagain
          refine ⟨_, ?_, .inr ⟨l, _, hfile, rfl⟩, fun plain hr bytes hbytes => ?_⟩
          · simp only [sanitizeFile, hreads.readText htext, hagain]
          · cases hr
            rw [hplain] at hbytes
            rw [readBytes_writeText hagain]
            exact hbytes

/-- What the troubles tell of which a policy could not be saved, and could not be saved again: the
directories above it could not be made, though some of them were, and the system says why not, each
time in its own words. -/
inductive Policy.RefusedAgain (path : Path) (fs fs' : FileSystem) : Trouble → Trouble → Prop where
  | intro {l : Location} {fault fault' : FileFault} {p p' : Path} (none : fs.entry? l = none)
      (made : fs'.entry? l = some .directory)
      (still : fs'.ensureDirectories path.parent = (fs', some (.system fault' p'))) :
      RefusedAgain path fs fs' (unwritten path (.system fault p))
        (unwritten path (.system fault' p'))

/-- A policy that was saved is saved again. If it was not, it is not, but perhaps for another
reason. -/
theorem Policy.save_again {source : String} {path : Path} {r : Option Trouble}
    (h : save source path fs = (fs', r)) (hg : Restores fs fs' g) :
    save source path g = (fs', r) ∨
      ∃ t t', r = some t ∧ save source path g = (fs', some t') ∧ RefusedAgain path fs fs' t t' := by
  unfold save at h
  split at h
  · next e hparents =>
      cases h
      have hmade : Frame (fun _ => False) _ fs (fs.ensureDirectories path.parent).1 :=
        ensureParts_frame fs path.parent.root path.parent.parts
      rw [hparents] at hmade
      obtain rfl := hg.eq hmade
      obtain hagain | ⟨⟨l, hn, hd⟩, fault, p, fault', p', rfl, hagain⟩ := ensureParts_again hparents
      · left
        simp only [save, ensureDirectories, hagain]
      · refine .inr ⟨_, _, rfl, ?_, .intro hn hd hagain⟩
        simp only [save, ensureDirectories, hagain]
  · next fs₁ hparents =>
      obtain ⟨m, hm, hd⟩ := ensureParts_ok hparents
      have hmade : Frame (fun _ => False) _ fs (fs.ensureDirectories path.parent).1 :=
        ensureParts_frame fs path.parent.root path.parent.parts
      rw [hparents] at hmade
      left
      rcases fs₁.writeText_cases path source with ⟨e, _, hw⟩ | ⟨l, hl, hne, hw⟩
      · rw [hw] at h
        cases h
        obtain rfl := hg.eq hmade
        simp only [save, ensureDirectories, ensureParts_of_directory hm hd, hw]
      · rw [hw] at h
        obtain ⟨rfl, rfl⟩ := Prod.mk.inj h
        obtain ⟨l', hl', hfile⟩ :=
          readBytes_ok_iff.1 (readBytes_set_file hl hne (writing fs₁.base source).1)
        have hlast : Frame (· = l) (fun _ => True) fs₁
            (fs₁.set l (.file (writing fs₁.base source).1)) := fs₁.set_file_frame hne _
        obtain rfl : l = l' := by
          rw [hlast.locate hl] at hl'
          exact Except.ok.inj hl'
        have hsaved : Frame (· = l) (fun _ => True) fs
            (fs₁.set l (.file (writing fs₁.base source).1)) :=
          (hmade.mono (fun _ hk => hk.elim) fun _ _ => trivial).trans hlast
        have hkept := hg.keepsDirectories hsaved
        have hbase : g.base = fs₁.base := hkept.base_eq
        obtain ⟨⟨bytes, hfile'⟩, hset⟩ := hg.set hfile hsaved
        have hparents' := ensureParts_of_directory (hkept.locate (hlast.locate hm))
          (hkept.directory (hlast.directory hd))
        have hwrite' := writeText_of_file source (hkept.locate hl') hfile'
        rw [hbase, hset] at hwrite'
        simp only [save, ensureDirectories, hparents', hwrite']

end ManifestPolicy
