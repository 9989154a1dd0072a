import ManifestPolicy.Proofs.FailureStages
import ManifestPolicy.Proofs.InputsKept
import ManifestPolicy.Proofs.Outcome

/-!
# The policy of a run that fails early

A run that ends before it has asked the evaluator about its document leaves
the generated policy as it found it: the file has the same bytes, or there is
still none. Until it compiles, a run writes nothing but the plain document.
When it compiles, the file of the policy is written last. The directories
above it are made first, and if they cannot be made, or the file cannot be
opened then, no file can be read at its place, neither before nor after: a
file that can be read has its directory, so that nothing has to be made, and it
is no directory itself, so that it is opened.

With one exception: once the file is opened, what it held is gone, and then a
policy with a character that has no bytes, or with more of them than a file may
have, fails half-way (`Policy.save_failed`). Such a run ends at the same stage
as the others, and it has spoiled the policy (`Validator.Spoils`).

Whether a run got so far is told by the stage of its result
(`Visits.keeps_early`), as long as the notice that a policy was written does
not itself go wrong.
-/

namespace ManifestPolicy

/-! ## Directories that cannot be made -/

theorem Path.utf8ByteSize_dropLast_le (parts : List String) :
    ("/".intercalate parts.dropLast).utf8ByteSize ≤ ("/".intercalate parts).utf8ByteSize := by
  match parts with
  | [] => exact Nat.le_refl _
  | [_] => exact Nat.zero_le _
  | [x, y] =>
      show ("/".intercalate [x]).utf8ByteSize ≤ _
      rw [String.intercalate_singleton, String.intercalate_cons_cons, String.utf8ByteSize_append,
        String.utf8ByteSize_append]
      omega
  | x :: y :: z :: rest =>
      have ih := utf8ByteSize_dropLast_le (y :: z :: rest)
      rw [List.dropLast_cons_cons] at ih
      rw [List.dropLast_cons_cons, List.dropLast_cons_cons, String.intercalate_cons_cons,
        String.intercalate_cons_cons]
      simp only [String.utf8ByteSize_append]
      omega

theorem Path.utf8ByteSize_parent_le (p : Path) :
    p.parent.text.utf8ByteSize ≤ max 1 p.text.utf8ByteSize := by
  have hparts := utf8ByteSize_dropLast_le p.parts
  have htext (root : Root) (parts : List String) :
      (Path.mk root parts).text = "." ∧ root = .none ∧ parts = [] ∨
        (Path.mk root parts).text = root.text ++ "/".intercalate parts := by
    unfold text
    split
    · next hroot hp => exact .inl ⟨rfl, hroot, hp⟩
    · exact .inr rfl
  obtain ⟨root, parts⟩ := p
  rcases htext root parts.dropLast with ⟨h, -, -⟩ | h
  · show (Path.mk root parts.dropLast).text.utf8ByteSize ≤ _
    rw [h]
    exact Nat.le_max_left _ _
  · show (Path.mk root parts.dropLast).text.utf8ByteSize ≤ _
    rcases htext root parts with ⟨_, hroot, hp⟩ | h'
    · subst hroot hp
      decide
    · rw [h, h', String.utf8ByteSize_append, String.utf8ByteSize_append]
      dsimp only at hparts
      omega

namespace FileSystem

variable {fs fs' : FileSystem} {p : Path} {l : Location} {e : FileError}

theorem walk_concat {parts : List String} {part : String} {from_ : Location}
    (h : fs.walk from_ (parts ++ [part]) = .ok l) :
    ∃ m, fs.walk from_ parts = .ok m ∧ fs.entry? m = some .directory := by
  induction parts generalizing from_ with
  | nil =>
      refine ⟨from_, by rw [walk], ?_⟩
      rw [List.nil_append, walk] at h
      split at h
      · cases h
      · cases h
      · next hd => exact hd
  | cons first rest ih =>
      rw [List.cons_append, walk] at h
      rw [walk]
      split at h
      · cases h
      · cases h
      · next hd =>
          split at h
          · next hup =>
              rw [if_pos hup]
              exact ih h
          · next hup =>
              rw [if_neg hup]
              split at h
              · cases h
              · next hlong =>
                  rw [if_neg hlong]
                  exact ih h

/-- What a path leads to stands in a directory. -/
theorem locate_parent (h : fs.locate p = .ok l) (hne : p.parts ≠ []) :
    ∃ m, fs.locate p.parent = .ok m ∧ fs.entry? m = some .directory := by
  unfold locate at h ⊢
  split at h
  · cases h
  · next hnull =>
      split at h
      · cases h
      · next hlong =>
          have hnull' : p.parent.hasNull = false := by
            unfold Path.hasNull at hnull ⊢
            rw [Bool.not_eq_true, List.any_eq_false] at hnull
            exact List.any_eq_false.2 fun part hp => hnull part (List.dropLast_subset _ hp)
          have hlong' : ¬ p.parent.text.utf8ByteSize > maxPath := by
            have := p.utf8ByteSize_parent_le
            unfold maxPath at hlong ⊢
            omega
          have hlost : fs.isLost p.parent = fs.isLost p := rfl
          rw [if_neg (by rw [hnull']; decide), if_neg hlong', hlost]
          split at h
          · cases h
          · next hfound =>
              rw [if_neg hfound]
              split at h
              · next hwalk =>
                  rw [← List.dropLast_concat_getLast hne] at hwalk
                  obtain ⟨m, hm, hd⟩ := walk_concat hwalk
                  have hparent : fs.walk (fs.start p.parent) p.parent.parts = .ok m := hm
                  exact ⟨m, by rw [hparent], hd⟩
              · cases h

theorem ensureDirectory_of_directory (hl : fs.locate p = .ok l)
    (hd : fs.entry? l = some .directory) : fs.ensureDirectory p = (fs, none) := by
  have hstatus : fs.status p = .ok .directory := by
    simp only [status, hl, hd]
  have hmake : fs.makeDirectory p = .error (.system .exists p) := by
    simp [makeDirectory, hl, hd]
  simp [ensureDirectory, hmake, isDirectory, status?, hstatus, Except.map]

theorem ensureDirectory_error (h : fs.ensureDirectory p = (fs', some e)) :
    fs' = fs ∧ ∀ l, fs.locate p = .ok l → fs.entry? l ≠ some .directory := by
  refine ⟨?_, fun l hl hd => ?_⟩
  · unfold ensureDirectory at h
    split at h
    · cases h
    · repeat' split at h
      all_goals cases h <;> rfl
  · rw [ensureDirectory_of_directory hl hd] at h
    cases h

/-- If directories cannot be made, there is none at the end of the path; and of an empty path
nothing is made on the way. -/
theorem ensureParts_error (fs : FileSystem) {root : Path.Root} {parts : List String}
    (h : fs.ensureParts root parts = (fs', some e)) :
    (parts = [] → fs' = fs) ∧
      ∀ l, fs'.locate ⟨root, parts⟩ = .ok l → fs'.entry? l ≠ some .directory := by
  rw [ensureParts] at h
  split at h
  · next fs₁ p hfirst =>
      split at h
      · cases h
        obtain ⟨rfl, hnone⟩ := ensureDirectory_error hfirst
        exact ⟨fun _ => rfl, hnone⟩
      · next hne =>
          refine ⟨fun h => absurd h hne, ?_⟩
          have hshort : parts.dropLast.length < parts.length := by
            have := List.length_pos_iff.2 hne
            rw [List.length_dropLast]
            omega
          split at h
          · next hupper =>
              cases h
              intro l hl
              obtain ⟨m, hm, hd⟩ := locate_parent hl hne
              exact absurd hd ((ensureParts_error fs₁ hupper).2 m hm)
          · obtain ⟨rfl, hnone⟩ := ensureDirectory_error h
            exact hnone
  · obtain ⟨rfl, hnone⟩ := ensureDirectory_error h
    exact ⟨fun _ => rfl, hnone⟩
termination_by parts.length

/-! ## What is read stays the same -/

/-- A path reads the same bytes in both, or nothing in either. -/
structure SameAt (p : Path) (fs fs' : FileSystem) : Prop where
  base_eq : fs'.base = fs.base
  read_iff (bytes : ByteArray) : fs'.readBytes p = .ok bytes ↔ fs.readBytes p = .ok bytes

variable {fs₁ fs₂ : FileSystem} {written made : Location → Prop} {q : Path}

theorem SameAt.trans (h : SameAt p fs fs₁) (h' : SameAt p fs₁ fs₂) : SameAt p fs fs₂ :=
  ⟨h'.base_eq.trans h.base_eq, fun bytes => (h'.read_iff bytes).trans (h.read_iff bytes)⟩

/-- Where no directory is made, paths lead nowhere that they did not lead before. -/
theorem Frame.keepsDirectories_symm (h : Frame written (fun _ => False) fs fs') :
    KeepsDirectories fs' fs := by
  refine ⟨h.base_eq.symm, fun {l} hl => ?_⟩
  obtain he | ⟨_, _, _, hf⟩ | ⟨hm, _⟩ := h.entry l
  · rw [← he]
    exact hl
  · rw [hl] at hf
    cases hf
  · exact hm.elim

/-- A file that is written through another path is not the one that is read. -/
theorem Frame.sameAt (h : Frame (fun l => fs'.locate q = .ok l) (fun _ => False) fs fs')
    (hq : ∀ l, fs.resolve q = .ok l → fs.resolve p ≠ .ok l) : SameAt p fs fs' := by
  have hother {l : Location} (hl : fs'.locate p = .ok l) : ¬ fs'.locate q = .ok l := by
    intro hw
    have hl := resolve_of_locate hl
    have hw := resolve_of_locate hw
    rw [resolve_congr h.base_eq] at hl hw
    exact hq l hw hl
  refine ⟨h.base_eq, fun bytes => ?_⟩
  rw [readBytes_ok_iff, readBytes_ok_iff]
  constructor
  · rintro ⟨l, hl, he⟩
    exact ⟨l, h.keepsDirectories_symm.locate hl, (h.file_iff (hother hl) bytes).1 he⟩
  · rintro ⟨l, hl, he⟩
    have hl' := h.locate hl
    exact ⟨l, hl', (h.file_iff (hother hl') bytes).2 he⟩

theorem Frame.readBytes (h : Frame (fun _ => False) made fs fs') {bytes : ByteArray}
    (hr : fs.readBytes p = .ok bytes) : fs'.readBytes p = .ok bytes := by
  obtain ⟨l, hl, he⟩ := readBytes_ok_iff.1 hr
  exact readBytes_ok_iff.2 ⟨l, h.locate hl, (h.file_iff id bytes).2 he⟩

end FileSystem

/-! ## A policy that is not saved -/

namespace Policy

open FileSystem

variable {source : String} {path : Path} {fs fs' : FileSystem} {t : Trouble}

/-- Either the file of a policy was not opened, and there is none to read unless nothing was tried
at all; or it was, and holds as much of the policy as could be written. -/
theorem save_failed (h : save source path fs = (fs', some t)) :
    Frame (fun _ => False) (fun _ => True) fs fs' ∧
        (fs' = fs ∨ ∀ bytes, fs'.readBytes path ≠ .ok bytes) ∨
      ∃ e, (writing fs.base source).2 = some e ∧ t = unwritten path e ∧
        fs'.readBytes path = .ok (writing fs.base source).1 := by
  have hmade : Frame (fun _ => False) (fun _ => True) fs (fs.ensureDirectories path.parent).1 :=
    (ensureParts_frame fs path.parent.root path.parent.parts).mono (fun _ hl => hl)
      fun _ _ => trivial
  unfold save at h
  split at h
  · next files e he =>
      cases h
      rw [he] at hmade
      refine .inl ⟨hmade, ?_⟩
      obtain ⟨hempty, hnone⟩ := ensureParts_error fs he
      by_cases hne : path.parts = []
      · exact .inl (hempty (by rw [Path.parent_parts, hne]; rfl))
      · refine .inr fun bytes hr => ?_
        obtain ⟨l, hl, _⟩ := readBytes_ok_iff.1 hr
        obtain ⟨m, hm, hd⟩ := locate_parent hl hne
        exact hnone m hm hd
  · next files he =>
      rw [he] at hmade
      rcases writeText_cases files path source with ⟨e, hopen, hw⟩ | ⟨l, hl, hd, hw⟩
      · rw [hw] at h
        cases h
        refine .inl ⟨hmade, .inr fun bytes hr => ?_⟩
        obtain ⟨l, hl, hfile⟩ := readBytes_ok_iff.1 hr
        rw [openFile_ok_iff.2 ⟨hl, by rw [hfile]; simp⟩] at hopen
        cases hopen
      · have hbase : files.base = fs.base := hmade.base_eq
        rw [hw, hbase] at h
        obtain ⟨rfl, ht⟩ := Prod.mk.inj h
        obtain ⟨e, he, rfl⟩ := Option.map_eq_some_iff.1 ht
        exact .inr ⟨e, he, rfl, readBytes_set_file hl hd _⟩

/-- By the path of a policy whose file was not opened the same is read as before. -/
theorem sameAt_of_unopened (hframe : Frame (fun _ => False) (fun _ => True) fs fs')
    (hread : fs' = fs ∨ ∀ bytes, fs'.readBytes path ≠ .ok bytes) : SameAt path fs fs' := by
  refine ⟨hframe.base_eq, fun bytes => ?_⟩
  rcases hread with rfl | hnone
  · exact Iff.rfl
  · exact iff_of_false (hnone bytes) fun hr => hnone bytes (hframe.readBytes hr)

end Policy

/-! ## Up to the policy -/

/-- The stages at which a run ends without having asked the evaluator. -/
def Stage.Early (stage : Stage) : Prop :=
  stage ∈ [Stage.detectTemplate, .render, .sanitizeFallback, .compile]

instance : DecidablePred Stage.Early := fun _ => inferInstanceAs (Decidable (_ ∈ _))

/-- A run that stands here has no policy yet, or has ended without one. -/
def Point.Early : Point → Prop
  | .detect | .probe | .render | .fallBack | .compile .. => True
  | .evaluate .. => False
  | .finished r => r.stage.Early

namespace Validator

open FileSystem

variable {v : Validator} {q : Request} {s s' : Session} {t : Trouble}

/-- A run that compiles in the first session spoils the policy, which is how it ends: the rules
compile, but the file of the policy, once opened, cannot hold the source, and is left with what
could be written of it. -/
def Spoils (v : Validator) (q : Request) (s s' : Session) (o : Outcome) : Prop :=
  let path := v.settings.policies.generatedPath q.workspace
  ∃ rules policy e, RuleSet.load s.files (v.settings.policies.rulesPath q.workspace) = .ok rules ∧
    Policy.compile v.settings.policies rules = .ok policy ∧
    (writing s.files.base policy.source).2 = some e ∧
    s'.files.readBytes path = .ok (writing s.files.base policy.source).1 ∧
    o = (Policy.unwritten path e).outcome

/-- A run that spoils the policy fails in one of two ways. -/
theorem Spoils.kind {o : Outcome} (h : v.Spoils q s s' o) :
    ∃ kind ∈ [FailureKind.io, .unknown], o.kind? = some kind := by
  obtain ⟨_, _, e, _, _, _, _, rfl⟩ := h
  obtain ⟨message, h⟩ := (Policy.unwritten _ e).outcome_eq
  exact ⟨_, FileError.kind_expected _ e, by rw [h]; rfl⟩

/-- If a policy is not generated, its file was not opened, or it is spoiled, as long as notices can
be given. -/
theorem generate_failed (hcalm : ∀ text, v.trouble (.info text) = none)
    (h : v.generate q.workspace s = (s', .error t)) :
    Frame (fun _ => False) (fun _ => True) s.files s'.files ∧
        (s'.files = s.files ∨ ∀ bytes,
          s'.files.readBytes (v.settings.policies.generatedPath q.workspace) ≠ .ok bytes) ∨
      v.Spoils q s s' t.outcome := by
  unfold generate at h
  dsimp only at h
  split at h
  · cases h
    exact .inl ⟨.refl _ _ _, .inl rfl⟩
  · next rules hrules =>
      split at h
      · cases h
        exact .inl ⟨.refl _ _ _, .inl rfl⟩
      · next policy hpolicy =>
          split at h
          · next files t' hsave =>
              cases h
              refine (Policy.save_failed hsave).imp_right ?_
              rintro ⟨e, he, rfl, hread⟩
              exact ⟨rules, policy, e, hrules, hpolicy, he, hread, rfl⟩
          · split at h
            · next hn =>
                injection hn with _ hn
                rw [generated, hcalm] at hn
                cases hn
            · cases h

/-- What tools keep, and what neither the plain document nor directories for the policy change,
holds as long as there is no policy, unless the run ends with a spoiled one. -/
theorem Visits.keeps_early {I : FileSystem → Prop}
    (hcalm : ∀ text, v.trouble (.info text) = none) (hstart : I s.files)
    (htools : ∀ s₁ point call, v.Visits q s s₁ point → v.callAt q point = some call →
      I s₁.files → I (s₁.ask call).1.files)
    (hplain : ∀ fs fs', Frame (fun l => fs'.locate
        (Template.plainPath v.settings.sanitizer q.document) = .ok l) (fun _ => False) fs fs' →
      I fs → I fs')
    (hunopened : ∀ fs fs', Frame (fun _ => False) (fun _ => True) fs fs' →
      (fs' = fs ∨ ∀ bytes,
        fs'.readBytes (v.settings.policies.generatedPath q.workspace) ≠ .ok bytes) →
      I fs → I fs')
    {p : Point} (h : v.Visits q s s' p) (hp : p.Early) :
    I s'.files ∨ ∃ s₁ target warnings r, v.Visits q s s₁ (.compile target warnings) ∧
      p = .finished r ∧ r.stage = .compile ∧ v.Spoils q s₁ s' r.outcome := by
  induction h with
  | detect => exact .inl hstart
  | @move s₁ point hv ih =>
      -- A run that is not over has not spoiled anything.
      have unspoiled (hgoing : ∀ r, point ≠ .finished r) (hearly : point.Early) : I s₁.files := by
        rcases ih hearly with hkept | ⟨_, _, _, r, _, hend, _⟩
        · exact hkept
        · exact absurd hend (hgoing r)
      cases point with
      | detect =>
          have hfiles := unspoiled (fun _ => by simp) trivial
          rw [Validator.move]
          split <;> exact .inl hfiles
      | probe =>
          rw [move_asking rfl]
          exact .inl (htools s₁ .probe _ hv rfl (unspoiled (fun _ => by simp) trivial))
      | render =>
          rw [move_asking rfl]
          exact .inl (htools s₁ .render _ hv rfl (unspoiled (fun _ => by simp) trivial))
      | fallBack =>
          have hfiles := unspoiled (fun _ => by simp) trivial
          simp only [Validator.move, notify]
          generalize Notice.warning _ = n
          cases v.trouble n with
          | some t => exact .inl hfiles
          | none =>
              have hframe : Frame _ (fun _ => False) s₁.files _ :=
                (v.makePlain_acts q (s₁.note n)).files
              dsimp only
              split
              · next hm =>
                  rw [hm] at hframe
                  exact .inl (hplain _ _ hframe hfiles)
              · next hm =>
                  rw [hm] at hframe
                  exact .inl (hplain _ _ hframe hfiles)
      | compile target warnings =>
          have hfiles := unspoiled (fun _ => by simp) trivial
          rw [Validator.move] at hp ⊢
          unfold compiling at hp ⊢
          split at hp
          · next hg =>
              rcases generate_failed hcalm hg with ⟨hframe, hread⟩ | hspoiled
              · exact .inl (hunopened _ _ hframe hread hfiles)
              · exact .inr ⟨s₁, target, warnings, _, hv, rfl, rfl, hspoiled⟩
          · exact hp.elim
      | evaluate target policy warnings =>
          -- The evaluator has been asked, and the stage of the verdict tells so.
          simp only [Validator.move, verdict] at hp
          split at hp
          · exact absurd (show Stage.evaluate.Early from hp) (by decide)
          · exact absurd (show Stage.report.Early from hp) (by decide)
      | finished r => exact ih hp

theorem Visits.replies_suffix {p : Point} (h : v.Visits q s s' p) : s'.replies <:+ s.replies :=
  (h.keeps (I := fun _ => True) trivial (fun _ _ _ _ _ _ => trivial)
    fun _ _ _ _ _ _ _ => trivial).2

theorem run_ok {r : Result} (h : (v.run q s).2 = .ok r) :
    (v.run q s).1.files = (v.conclude q s).1.files ∧ (v.conclude q s).2 = r := by
  unfold run at h ⊢
  dsimp only [notify] at h ⊢
  split
  · next hrefusal =>
      rw [hrefusal] at h
      cases h
  · next hrefusal =>
      rw [hrefusal] at h
      dsimp only at h
      cases hn : v.trouble (.report (v.conclude q s).2) with
      | some t =>
          rw [hn] at h
          cases h
      | none =>
          rw [hn] at h
          exact ⟨rfl, Except.ok.inj h⟩

/-- A run that ends early has spoiled the policy, or leaves it as it was, if the plain document is
not the same file. Where the path of the policy resolves to there is the same file as before, or
still none, if the tools write none there; and by its path the same is read as before, or still
nothing, if no call of a tool changes that. -/
theorem early_run_keeps_policy {r : Result} (hcalm : ∀ text, v.trouble (.info text) = none)
    (hother : ∀ l, s.files.resolve (Template.plainPath v.settings.sanitizer q.document) = .ok l →
      s.files.resolve (v.settings.policies.generatedPath q.workspace) ≠ .ok l)
    (hr : (v.run q s).2 = .ok r) (hstage : r.stage.Early) :
    (r.stage = .compile ∧ ∃ s₁ target warnings, v.Visits q s s₁ (.compile target warnings) ∧
      v.Spoils q s₁ (v.run q s).1 r.outcome) ∨
    (∀ l, s.files.resolve (v.settings.policies.generatedPath q.workspace) = .ok l →
      (∀ reply ∈ s.replies, ∀ w ∈ reply.writes, w.1 ≠ l) →
      SameFile l s.files (v.run q s).1.files) ∧
    ((∀ s' point call, v.Visits q s s' point → v.callAt q point = some call →
        SameAt (v.settings.policies.generatedPath q.workspace) s'.files (s'.ask call).1.files) →
      SameAt (v.settings.policies.generatedPath q.workspace) s.files (v.run q s).1.files) := by
  obtain ⟨hfiles, hend⟩ := run_ok hr
  have hv := v.visits_finished q s
  have hearly : (Point.finished (v.conclude q s).2).Early := by
    rw [hend]
    exact hstage
  -- What is kept unless the policy is spoiled is kept, or it is spoiled.
  have spoiled {I : FileSystem → Prop} (h : I (v.conclude q s).1.files ∨ ∃ s₁ target warnings r',
      v.Visits q s s₁ (.compile target warnings) ∧
      Point.finished (v.conclude q s).2 = .finished r' ∧ r'.stage = .compile ∧
      v.Spoils q s₁ (v.conclude q s).1 r'.outcome) :
      (r.stage = .compile ∧ ∃ s₁ target warnings, v.Visits q s s₁ (.compile target warnings) ∧
        v.Spoils q s₁ (v.run q s).1 r.outcome) ∨ I (v.conclude q s).1.files := by
    rcases h with hkept | ⟨s₁, target, warnings, r', hs₁, hr', hcompile, hspoils⟩
    · exact .inr hkept
    · obtain rfl := (Point.finished.inj hr').symm.trans hend
      refine .inl ⟨hcompile, s₁, target, warnings, hs₁, ?_⟩
      unfold Spoils at hspoils ⊢
      rw [hfiles]
      exact hspoils
  by_cases hspoiled : r.stage = .compile ∧ ∃ s₁ target warnings,
      v.Visits q s s₁ (.compile target warnings) ∧ v.Spoils q s₁ (v.run q s).1 r.outcome
  · exact .inl hspoiled
  refine .inr ?_
  rw [hfiles]
  constructor
  · intro l hl htools
    refine (spoiled (I := SameFile l s.files) (hv.keeps_early hcalm ⟨rfl, fun _ => Iff.rfl⟩ ?_ ?_
      ?_ hearly)).resolve_left hspoiled
    · intro s₁ point call hs₁ _ hsame
      exact s₁.ask_keeps call hsame fun reply hr w hw _ h =>
        h.plant w.2 (htools reply (hs₁.replies_suffix.subset hr) w hw)
    · intro fs fs' hframe hsame
      refine hsame.trans (hframe.sameFile fun hw => ?_)
      have hw := resolve_of_locate hw
      rw [resolve_congr (hframe.base_eq.trans hsame.base_eq)] at hw
      exact hother l hw hl
    · intro fs fs' hframe _ hsame
      exact hsame.trans (hframe.sameFile id)
  · intro htools
    refine (spoiled (I := SameAt _ s.files) (hv.keeps_early hcalm ⟨rfl, fun _ => Iff.rfl⟩ ?_ ?_
      ?_ hearly)).resolve_left hspoiled
    · intro s₁ point call hs₁ hcall hsame
      exact hsame.trans (htools s₁ point call hs₁ hcall)
    · intro fs fs' hframe hsame
      refine hsame.trans (hframe.sameAt fun l => ?_)
      rw [resolve_congr hsame.base_eq, resolve_congr hsame.base_eq]
      exact hother l
    · intro fs fs' hframe hread hsame
      exact hsame.trans (Policy.sameAt_of_unopened hframe hread)

/-- A template is made plain, but the rules are no YAML. -/
theorem early_run_keeps_policy_no_yaml :
    let v : Validator := ⟨{}, fun _ => none⟩
    let q : Request := { document := ⟨.none, ["x.yaml"]⟩, workspace := ⟨.none, ["w"]⟩ }
    let policy := v.settings.policies.generatedPath q.workspace
    let files := (((⟨[], { here := [] }⟩ : FileSystem).plant
      (.file "a: \x7b\x7b .Values.x \x7d\x7d\n".toUTF8) [] ["x.yaml"]).plant
      (.file "rules: [".toUTF8) [] ["w", "policies", "rules.yaml"]).plant
      (.file "old".toUTF8) [] ["w", "policies", "generated.rego"]
    let logged : Session :=
      { files, replies := [⟨[(["log"], .file "run".toUTF8)], .notRun "none"⟩] }
    let silent : Session := { files, replies := [⟨[], .notRun "none"⟩] }
    (∃ r, (v.run q logged).2 = .ok r ∧ r.stage = .compile) ∧
      SameFile ["w", "policies", "generated.rego"] files (v.run q logged).1.files ∧
      (∃ r, (v.run q silent).2 = .ok r ∧ r.stage = .compile) ∧
      (v.run q silent).1.files.readBytes policy = .ok "old".toUTF8 ∧
      FileSystem.entry? (v.run q silent).1.files ["sanitized.yaml"] =
        some (.file "a: \n".toUTF8) := by
  intro v q policy files logged silent
  have hother : ∀ l, files.resolve (Template.plainPath v.settings.sanitizer q.document) = .ok l →
      files.resolve policy ≠ .ok l := by
    intro l hl h
    have hleads := (resolve_ok_iff.1 hl).2.2.trans (resolve_ok_iff.1 h).2.2.symm
    exact absurd hleads (by decide +kernel)
  -- A policy is spoiled by a failure of another kind.
  have unspoiled {s₁ s' : Session} {o : Outcome} (hparse : o.kind? = some .parse) :
      ¬ v.Spoils q s₁ s' o := by
    intro h
    obtain ⟨kind, hmem, hkind⟩ := h.kind
    cases hkind.symm.trans hparse
    exact absurd hmem (by decide)
  have hlogged : ∃ r, (v.run q logged).2 = .ok r ∧ r.stage = .compile ∧
      r.outcome.kind? = some .parse := by decide +kernel
  have hsilent : ∃ r, (v.run q silent).2 = .ok r ∧ r.stage = .compile ∧
      r.outcome.kind? = some .parse := by decide +kernel
  obtain ⟨r, hr, hstage, hkind⟩ := hlogged
  obtain ⟨r', hr', hstage', hkind'⟩ := hsilent
  refine ⟨⟨r, hr, hstage⟩, ?_, ⟨r', hr', hstage'⟩, ?_, by decide +kernel⟩
  · rcases early_run_keeps_policy (s := logged) (fun _ => rfl) hother hr
      (by rw [hstage]; decide) with ⟨_, _, _, _, _, hspoils⟩ | hkeeps
    · exact absurd hspoils (unspoiled hkind)
    · exact hkeeps.1 _ (resolve_ok_iff.2 (by decide +kernel)) (by decide +kernel)
  · rcases early_run_keeps_policy (s := silent) (fun _ => rfl) hother hr'
      (by rw [hstage']; decide) with ⟨_, _, _, _, _, hspoils⟩ | hkeeps
    · exact absurd hspoils (unspoiled hkind')
    have hold : files.readBytes policy = .ok "old".toUTF8 :=
      readBytes_ok_iff.2 (by decide +kernel)
    refine ((hkeeps.2 ?_).read_iff _).2 hold
    intro s' point call hv _
    have hfiles : (s'.ask call).1.files = s'.files := by
      refine s'.ask_keeps (I := (· = s'.files)) call rfl fun reply hr w hw => ?_
      rw [List.mem_singleton.1 (hv.replies_suffix.subset hr)] at hw
      cases hw
    rw [hfiles]
    exact ⟨rfl, fun _ => Iff.rfl⟩

/-- A value that is half a character has no bytes: the old policy is gone, and there is no new one,
though no tool writes anything. -/
theorem early_run_spoils_policy :
    let v : Validator := ⟨{}, fun _ => none⟩
    let q : Request := { document := ⟨.none, ["x.yaml"]⟩, workspace := ⟨.none, ["w"]⟩ }
    let rules := "rules: [\x7bname: a, match: \x7bkind: Pod\x7d, conditions: [" ++
      "\x7bpath: x, operator: equals, value: \"\\ud800\"\x7d], message: m\x7d]"
    let files := (((⟨[], { here := [] }⟩ : FileSystem).plant (.file "a: 1".toUTF8) []
      ["x.yaml"]).plant (.file rules.toUTF8) [] ["w", "policies", "rules.yaml"]).plant
      (.file "old".toUTF8) [] ["w", "policies", "generated.rego"]
    let s : Session := { files }
    (∃ r, (v.run q s).2 = .ok r ∧ r.stage = .compile) ∧
      FileSystem.entry? files ["w", "policies", "generated.rego"] = some (.file "old".toUTF8) ∧
      FileSystem.entry? (v.run q s).1.files ["w", "policies", "generated.rego"] =
        some (.file "".toUTF8) := by
  decide +kernel

end Validator

end ManifestPolicy
