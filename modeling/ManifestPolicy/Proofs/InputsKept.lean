import ManifestPolicy.Proofs.RunCourse

/-!
# What a run leaves as it was

A run writes to two paths at most, and each of them at one point of its
course: to the plain document where it falls back on that, and to the policy
where it compiles one (`writesAt`). Tools write what they please. So a file
keeps its bytes through a run if no tool writes it and none of the paths that
the run writes to on its course resolves to where the file is
(`run_keeps_file`), however the run ends. The document and the rules are no
exception: nothing looks whether a run is about to write to what it has read.
A document that has the name of the plain document is replaced by it
(`run_replaces_document`).
-/

namespace ManifestPolicy

open FileSystem

/-! ## A file that is kept -/

namespace FileSystem

/-- A file is still there, and paths resolve as they did. -/
structure FileAt (fs : FileSystem) (l : Location) (bytes : ByteArray) (fs' : FileSystem) :
    Prop where
  base_eq : fs'.base = fs.base
  entry_eq : fs'.entry? l = some (.file bytes)

theorem FileAt.plant {fs fs' : FileSystem} {l m : Location} {bytes : ByteArray}
    (h : FileAt fs l bytes fs') (e : Entry) (hm : m ≠ l) :
    FileAt fs l bytes (fs'.plant e [] m) := by
  refine ⟨(fs'.base_plant e m []).trans h.base_eq, ?_⟩
  obtain he | ⟨hn, _⟩ | ⟨hl, _⟩ := fs'.entry?_plant e m [] l
  · rw [he]
    exact h.entry_eq
  · rw [h.entry_eq] at hn
    cases hn
  · exact absurd hl.symm hm

/-- A file is still there if no path that was written to resolves to it. -/
theorem FileAt.frame {fs fs₁ fs₂ : FileSystem} {l : Location} {bytes : ByteArray}
    {paths : Option Path} {made : Location → Prop} (h : FileAt fs l bytes fs₁)
    (hf : Frame (fun l => ∃ path ∈ paths, fs₂.locate path = .ok l) made fs₁ fs₂)
    (hpaths : ∀ path ∈ paths, fs.resolve path ≠ .ok l) : FileAt fs l bytes fs₂ := by
  have hbase := hf.base_eq.trans h.base_eq
  refine ⟨hbase, (hf.file_iff ?_ bytes).2 h.entry_eq⟩
  rintro ⟨path, hpath, hl⟩
  exact hpaths path hpath ((resolve_congr hbase path).symm.trans (resolve_of_locate hl))

end FileSystem

/-! ## Where a run writes -/

namespace Validator

variable {v : Validator} {q : Request} {s : Session}

/-- The path that a run writes to where it stands. -/
def writesAt (v : Validator) (q : Request) : Point → Option Path
  | .fallBack => some (Template.plainPath v.settings.sanitizer q.document)
  | .compile .. => some (v.settings.policies.generatedPath q.workspace)
  | _ => none

/-- A step writes to the path for its point only. -/
theorem files_move {p : Point} (hp : v.callAt q p = none) (s : Session) :
    Frame (fun l => ∃ path ∈ v.writesAt q p, (v.move q p s).1.files.locate path = .ok l)
      (fun _ => True) s.files (v.move q p s).1.files := by
  cases p with
  | detect =>
      rw [move]
      split <;> exact .refl _ _ _
  | fallBack =>
      simp only [move, notify]
      generalize Notice.warning _ = n
      cases v.trouble n with
      | some t => exact .refl _ _ _
      | none =>
          have plain : Frame (fun l => ∃ path ∈ v.writesAt q .fallBack,
              (v.makePlain q.document (s.note n)).1.files.locate path = .ok l) (fun _ => True)
              s.files (v.makePlain q.document (s.note n)).1.files :=
            (v.makePlain_acts q (s.note n)).files.mono (fun l hl => ⟨_, rfl, hl⟩) fun _ hl => hl
          dsimp only
          split
          · next hm => rw [hm] at plain; exact plain
          · next hm => rw [hm] at plain; exact plain
  | compile target warnings =>
      have policy : Frame (fun l => ∃ path ∈ v.writesAt q (.compile target warnings),
          (v.generate q.workspace s).1.files.locate path = .ok l) (fun _ => True)
          s.files (v.generate q.workspace s).1.files :=
        (v.generate_acts q s).files.mono (fun l hl => ⟨_, rfl, hl⟩) fun _ _ => trivial
      rw [move]
      unfold compiling
      split
      · next hg => rw [hg] at policy; exact policy
      · next hg => rw [hg] at policy; exact policy
  | finished r => exact .refl _ _ _
  | _ => cases hp

/-- What no tool changes and no step changes holds wherever the run stands. -/
theorem Visits.keeps {I : FileSystem → Prop} {s' : Session} {p : Point}
    (h : v.Visits q s s' p) (hstart : I s.files)
    (htools : ∀ reply ∈ s.replies, ∀ w ∈ reply.writes, ∀ fs, I fs → I (fs.plant w.2 [] w.1))
    (hsteps : ∀ s₁ point, v.Visits q s s₁ point → ∀ fs fs',
      Frame (fun l => ∃ path ∈ v.writesAt q point, fs'.locate path = .ok l) (fun _ => True)
        fs fs' → I fs → I fs') :
    I s'.files ∧ s'.replies <:+ s.replies := by
  induction h with
  | detect => exact ⟨hstart, List.suffix_refl _⟩
  | @move s₁ point hv ih =>
      obtain ⟨hfiles, hreplies⟩ := ih
      cases hp : v.callAt q point with
      | none =>
          refine ⟨hsteps s₁ point hv _ _ (files_move hp s₁) hfiles, ?_⟩
          rw [(v.acts_move hp s₁).replies_eq]
          exact hreplies
      | some call =>
          rw [move_asking hp]
          constructor
          · exact s₁.ask_keeps call hfiles fun reply hr => htools reply (hreplies.subset hr)
          · show (s₁.ask call).1.replies <:+ s.replies
            rw [Session.replies_ask]
            exact (List.tail_suffix _).trans hreplies

/-- The session that a run leaves has the files of its end, or those of its beginning. -/
theorem files_run (v : Validator) (q : Request) (s : Session) :
    (v.run q s).1.files = s.files ∨ (v.run q s).1.files = (v.conclude q s).1.files := by
  simp only [run, notify]
  split
  · exact .inl rfl
  · split
    · next h => injection h with h; rw [← h]; exact .inr rfl
    · next h => injection h with h; rw [← h]; exact .inr rfl

/-! ## The files of a run -/

/-- What no tool changes and no step changes holds after a run, however it ends. -/
theorem run_keeps {I : FileSystem → Prop} (hstart : I s.files)
    (htools : ∀ reply ∈ s.replies, ∀ w ∈ reply.writes, ∀ fs, I fs → I (fs.plant w.2 [] w.1))
    (hsteps : ∀ s₁ point, v.Visits q s s₁ point → ∀ fs fs',
      Frame (fun l => ∃ path ∈ v.writesAt q point, fs'.locate path = .ok l) (fun _ => True)
        fs fs' → I fs → I fs') :
    I (v.run q s).1.files := by
  rcases v.files_run q s with h | h
  · rw [h]
    exact hstart
  · rw [h]
    exact ((v.visits_finished q s).keeps hstart htools hsteps).1

/-- A file keeps its bytes, be it the document, the rules or another one, if no tool writes it and
no path that the run writes to on its course resolves to it. It is read by the same path if the
tools put no file where a directory is. -/
theorem run_keeps_file {p : Path} {l : Location} {bytes : ByteArray}
    (hl : s.files.locate p = .ok l) (hbytes : s.files.entry? l = some (.file bytes))
    (htools : ∀ reply ∈ s.replies, ∀ w ∈ reply.writes, w.1 ≠ l)
    (hcourse : ∀ s' point, v.Visits q s s' point →
      ∀ path ∈ v.writesAt q point, s.files.resolve path ≠ .ok l) :
    FileSystem.entry? (v.run q s).1.files l = some (.file bytes) ∧
      ((∀ reply ∈ s.replies, ∀ w ∈ reply.writes,
          s.files.entry? w.1 = some .directory → w.2 = .directory) →
        (v.run q s).1.files.readBytes p = .ok bytes) := by
  have hfile : FileAt s.files l bytes (v.run q s).1.files :=
    run_keeps ⟨rfl, hbytes⟩ (fun reply hr w hw _ h => h.plant w.2 (htools reply hr w hw))
      fun s₁ point hv _ _ hf h => h.frame hf (hcourse s₁ point hv)
  refine ⟨hfile.entry_eq, fun hdirectories => ?_⟩
  have hkept : KeepsDirectories s.files (v.run q s).1.files :=
    run_keeps ⟨rfl, id⟩ (fun reply hr w hw _ h => h.plant (hdirectories reply hr w hw))
      fun _ _ _ _ _ hf h => h.trans hf.keepsDirectories
  exact readBytes_ok_iff.2 ⟨l, hkept.locate hl, hfile.entry_eq⟩

/-- A template is kept while the plain document is written beside it. -/
theorem run_keeps_file_template :
    let v : Validator := ⟨{}, fun _ => none⟩
    let q : Request := { document := ⟨.none, ["x.yaml"]⟩, workspace := ⟨.none, ["w"]⟩ }
    let template := "a: \x7b\x7b .Values.x \x7d\x7d\n".toUTF8
    let s : Session :=
      { files := ((⟨[], { here := [] }⟩ : FileSystem).plant (.file template) [] ["x.yaml"]).plant
          (.file "rules: []\n".toUTF8) [] ["w", "policies", "rules.yaml"]
        replies := [⟨[(["log"], .file template)], .notRun "no renderer"⟩] }
    s.files.locate q.document = .ok ["x.yaml"] ∧
      s.files.entry? ["x.yaml"] = some (.file template) ∧
      (∀ reply ∈ s.replies, ∀ w ∈ reply.writes, w.1 ≠ ["x.yaml"]) ∧
      (v.run q s).1.files.readBytes q.document = .ok template ∧
      FileSystem.entry? (v.run q s).1.files ["sanitized.yaml"] = some (.file "a: \n".toUTF8) := by
  intro v q template s
  have hl : s.files.locate q.document = .ok ["x.yaml"] := rfl
  have hbytes : s.files.entry? ["x.yaml"] = some (.file template) := by decide +kernel
  have htools : ∀ reply ∈ s.replies, ∀ w ∈ reply.writes, w.1 ≠ ["x.yaml"] := by decide +kernel
  have hcourse : ∀ s' point, v.Visits q s s' point →
      ∀ path ∈ v.writesAt q point, s.files.resolve path ≠ .ok ["x.yaml"] := by
    intro s' point _ path hpath h
    have hleads := (resolve_ok_iff.1 h).2.2
    cases point with
    | fallBack =>
        cases hpath
        exact absurd hleads (by decide +kernel)
    | compile target warnings =>
        cases hpath
        exact absurd hleads (by decide +kernel)
    | _ => cases hpath
  have hdirectories : ∀ reply ∈ s.replies, ∀ w ∈ reply.writes,
      s.files.entry? w.1 = some .directory → w.2 = .directory := by decide +kernel
  exact ⟨hl, hbytes, htools, (run_keeps_file hl hbytes htools hcourse).2 hdirectories,
    by decide +kernel⟩

/-- A template that has the name of the plain document is replaced by it, though no tool writes
anything. -/
theorem run_replaces_document :
    let v : Validator := ⟨{}, fun _ => none⟩
    let q : Request := { document := ⟨.none, ["sanitized.yaml"]⟩, workspace := ⟨.none, []⟩ }
    let s : Session :=
      { files := ((⟨[], { here := [] }⟩ : FileSystem).plant
          (.file "a: \x7b\x7b .Values.x \x7d\x7d\n".toUTF8) [] ["sanitized.yaml"]).plant
          (.file "rules: []\n".toUTF8) [] ["policies", "rules.yaml"]
        replies := [⟨[], .notRun "no renderer"⟩, ⟨[], .completed ⟨0, "[]", ""⟩⟩] }
    (∀ reply ∈ s.replies, reply.writes = []) ∧
      s.files.locate q.document = .ok ["sanitized.yaml"] ∧
      s.files.entry? ["sanitized.yaml"] =
        some (.file "a: \x7b\x7b .Values.x \x7d\x7d\n".toUTF8) ∧
      FileSystem.entry? (v.run q s).1.files ["sanitized.yaml"] = some (.file "a: \n".toUTF8) := by
  intro v q s
  refine ⟨by decide, rfl, ?_, ?_⟩
  · decide +kernel
  · decide +kernel

end Validator

end ManifestPolicy
