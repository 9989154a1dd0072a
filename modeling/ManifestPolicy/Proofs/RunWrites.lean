import ManifestPolicy.Proofs.InputsKept

/-!
# What a run changes

If the tools write nothing, all that a run changes are two files and the
directories above one of them: the generated policy, and the plain document
if the run falls back on that, which it does exactly if the document is taken
for a template and the renderer is missing (`Validator.FallsBack`).

This is said of what is left of a run from any point on (`rest_frame`), by
induction on the steps that it has left. A step that calls nobody is known in
two ways, by the path that it writes to and by the directories that it makes,
and both hold of the same change (`Frame.both`). The locations are those to
which the paths lead in the end, for a path goes on leading to where it led.
-/

namespace ManifestPolicy

open FileSystem

/-- Two frames of one change admit together what both admit. -/
theorem FileSystem.Frame.both {written written' made made' : Location → Prop}
    {fs fs' : FileSystem} (h : Frame written made fs fs') (h' : Frame written' made' fs fs') :
    Frame (fun l => written l ∧ written' l) (fun l => made l ∧ made' l) fs fs' := by
  refine ⟨h.base_eq, fun l => ?_⟩
  obtain he | ⟨hw, hne, bytes, hf⟩ | ⟨hm, hn, hd⟩ := h.entry l
  · exact .inl he
  · obtain he' | ⟨hw', _⟩ | ⟨_, _, hd'⟩ := h'.entry l
    · exact .inl he'
    · exact .inr (.inl ⟨⟨hw, hw'⟩, hne, bytes, hf⟩)
    · rw [hf] at hd'
      cases hd'
  · obtain he' | ⟨_, _, _, hf'⟩ | ⟨hm', _⟩ := h'.entry l
    · exact .inl he'
    · rw [hd] at hf'
      cases hf'
    · exact .inr (.inr ⟨⟨hm, hm'⟩, hn, hd⟩)

/-! ## Tools that write nothing -/

/-- No tool writes a file. -/
def Session.Quiet (s : Session) : Prop := ∀ reply ∈ s.replies, reply.writes = []

variable {s : Session}

theorem Session.Quiet.files_ask (h : s.Quiet) (call : Call) : (s.ask call).1.files = s.files :=
  s.ask_keeps (I := (· = s.files)) call rfl fun reply hr w hw => by
    rw [h reply hr] at hw
    cases hw

theorem Session.Quiet.ask (h : s.Quiet) (call : Call) : (s.ask call).1.Quiet := by
  intro reply hr
  refine h reply (List.mem_of_mem_tail ?_)
  rw [← s.replies_ask call]
  exact hr

theorem Session.Quiet.move (h : s.Quiet) (v : Validator) (q : Request) (p : Point) :
    (v.move q p s).1.Quiet := by
  cases hp : v.callAt q p with
  | none =>
      intro reply hr
      rw [(v.acts_move hp s).replies_eq] at hr
      exact h reply hr
  | some call =>
      rw [Validator.move_asking hp]
      exact h.ask call

/-! ## When a run falls back -/

/-- The answers to the probe by which the renderer is missing: it could not be run, took too long,
ended with an error, or was not known. -/
inductive Renderer.Missing : Answer → Prop where
  | notRun (text : String) : Missing (.notRun text)
  | timedOut (text : String) : Missing (.timedOut text)
  | status {c : Completion} (h : c.status ≠ 0) : Missing (.completed c)
  | unknown {c : Completion} (h : Text.occursIn "not recognized".toList c.stderr.toList = true) :
      Missing (.completed c)

theorem Renderer.isAvailable_eq_false_iff {a : Answer} : isAvailable a = .ok false ↔ Missing a := by
  constructor
  · intro h
    cases a with
    | completed c =>
        simp only [isAvailable, Except.ok.injEq, Bool.and_eq_false_iff, decide_eq_false_iff_not,
          Bool.not_eq_false'] at h
        exact h.elim .status .unknown
    | notRun text => exact .notRun text
    | timedOut text => exact .timedOut text
    | broken t => cases h
  · intro h
    cases h with
    | notRun text => rfl
    | timedOut text => rfl
    | status h => simp [isAvailable, h]
    | unknown h => rw [isAvailable, h, Bool.not_true, Bool.and_false]

namespace Validator

variable {v : Validator} {q : Request}

/-- The renderer is switched off, or missing by its answer to the probe. -/
def LacksRenderer (v : Validator) (s : Session) : Prop :=
  v.settings.renderer.enabled = false ∨
    Renderer.Missing (s.ask (Renderer.versionCall v.settings.renderer)).2

/-- A run that stands here will fall back on the plain document, or is about to. -/
def FallsBack (v : Validator) (q : Request) : Point → Session → Prop
  | .detect, s => isTemplate q s = .ok true ∧ v.LacksRenderer s
  | .probe, s => Renderer.Missing (s.ask (Renderer.versionCall v.settings.renderer)).2
  | .fallBack, _ => True
  | _, _ => False

/-- What falls back later was to fall back before. -/
theorem fallsBack_move {p : Point} (h : v.FallsBack q (v.move q p s).2 (v.move q p s).1) :
    v.FallsBack q p s := by
  cases p with
  | detect =>
      cases ht : isTemplate q s with
      | error t =>
          simp only [move, ht] at h
          exact h.elim
      | ok b =>
          cases b with
          | false =>
              simp only [move, ht] at h
              exact h.elim
          | true =>
              refine ⟨ht, ?_⟩
              cases he : v.settings.renderer.enabled with
              | false => exact .inl he
              | true =>
                  simp only [move, ht, he, if_true] at h
                  exact .inr h
  | probe =>
      cases ha : Renderer.isAvailable (s.ask (Renderer.versionCall v.settings.renderer)).2 with
      | error t =>
          simp only [move, ha] at h
          exact h.elim
      | ok b =>
          cases b with
          | false => exact Renderer.isAvailable_eq_false_iff.1 ha
          | true =>
              simp only [move, ha] at h
              exact h.elim
  | render =>
      simp only [move] at h
      split at h <;> exact h.elim
  | fallBack => trivial
  | compile target warnings =>
      rw [move] at h
      unfold compiling at h
      split at h <;> exact h.elim
  | evaluate target policy warnings => exact h
  | finished r => exact h

/-! ## What is left of a run -/

/-- The files that a run may write that stands here. -/
def WritesFrom (v : Validator) (q : Request) (p : Point) (s : Session) (fs : FileSystem)
    (l : Location) : Prop :=
  fs.locate (v.settings.policies.generatedPath q.workspace) = .ok l ∨
    v.FallsBack q p s ∧ fs.locate (Template.plainPath v.settings.sanitizer q.document) = .ok l

theorem move_frame (hs : s.Quiet) (p : Point) :
    Frame (v.WritesFrom q p s (v.move q p s).1.files) (v.Makes q (v.move q p s).1.files)
      s.files (v.move q p s).1.files := by
  cases hp : v.callAt q p with
  | none =>
      have h := (files_move hp s).both (v.acts_move hp s).files
      refine h.mono (fun l hl => ?_) fun l hl => hl.2
      obtain ⟨path, hpath, hl⟩ := hl.1
      cases p with
      | fallBack => cases hpath; exact .inr ⟨trivial, hl⟩
      | compile target warnings => cases hpath; exact .inl hl
      | _ => cases hpath
  | some call =>
      have hfiles : (s.ask call).1.files = s.files := hs.files_ask call
      rw [move_asking hp, hfiles]
      exact .refl _ _ _

/-- What is left of a run changes the generated policy, makes directories above it, and changes the
plain document if the run will fall back on that. -/
theorem rest_frame {s : Session} (hs : s.Quiet) (p : Point) :
    Frame (v.WritesFrom q p s (v.rest q p s).1.files) (v.Makes q (v.rest q p s).1.files)
      s.files (v.rest q p s).1.files := by
  by_cases hp : 0 < p.left
  · have hlt : (v.move q p s).2.left < p.left := left_move hp
    have now : Frame _ _ s.files (v.move q p s).1.files := move_frame hs p
    have later := rest_frame (hs.move v q p) (v.move q p s).2
    rw [v.rest_move q p s] at later
    have before : Frame (v.WritesFrom q p s (v.rest q p s).1.files)
        (v.Makes q (v.rest q p s).1.files) s.files (v.move q p s).1.files :=
      now.mono (fun l hl => hl.imp later.locate fun hl => ⟨hl.1, later.locate hl.2⟩)
        fun l hl => hl.frame later
    exact before.trans (later.mono
      (fun l hl => hl.imp_right fun hl => ⟨fallsBack_move hl.1, hl.2⟩) fun l hl => hl)
  · cases p with
    | finished r => exact .refl _ _ _
    | _ => exact absurd (Nat.succ_pos _) hp
termination_by p.left

/-! ## The whole run -/

/-- If the tools write nothing, a run changes no file but the generated policy and, if the document
is taken for a template and the renderer is missing, the plain document; it makes no directory but
those among the parents of the policy that were not there, and it removes nothing. -/
theorem run_frame (hs : s.Quiet) :
    Frame (fun l =>
        (v.run q s).1.files.locate (v.settings.policies.generatedPath q.workspace) = .ok l ∨
        (isTemplate q s = .ok true ∧ v.LacksRenderer s) ∧ (v.run q s).1.files.locate
          (Template.plainPath v.settings.sanitizer q.document) = .ok l)
      (Above (v.settings.policies.generatedPath q.workspace).parent.root
        (v.settings.policies.generatedPath q.workspace).parent.parts (v.run q s).1.files)
      s.files (v.run q s).1.files := by
  rcases v.files_run q s with h | h
  · rw [h]
    exact .refl _ _ _
  · rw [h]
    exact rest_frame hs .detect

/-- A template that cannot be rendered, and a policy that goes to a directory of its own. -/
theorem run_frame_new_directory :
    let v : Validator := ⟨{ policies := { generatedFile := "new/out.rego" } }, fun _ => none⟩
    let q : Request := { document := ⟨.none, ["x.yaml"]⟩, workspace := ⟨.none, ["w"]⟩ }
    let s : Session :=
      { files := ((⟨[], { here := [] }⟩ : FileSystem).plant
          (.file "a: \x7b\x7b .Values.x \x7d\x7d\n".toUTF8) [] ["x.yaml"]).plant
          (.file "rules: []\n".toUTF8) [] ["w", "policies", "rules.yaml"]
        replies := [⟨[], .completed ⟨127, "", "helm: not found"⟩⟩] }
    s.Quiet ∧
      Frame (v.WritesFrom q .detect s (v.run q s).1.files) (v.Makes q (v.run q s).1.files)
        s.files (v.run q s).1.files ∧
      FileSystem.entry? (v.run q s).1.files ["sanitized.yaml"] = some (.file "a: \n".toUTF8) ∧
      FileSystem.entry? (v.run q s).1.files ["w", "policies", "new"] = some .directory ∧
      (FileSystem.entry? (v.run q s).1.files ["w", "policies", "new", "out.rego"]).isSome := by
  intro v q s
  have hs : s.Quiet := by
    intro reply hr
    rw [List.mem_singleton.1 hr]
  exact ⟨hs, run_frame hs, by decide +kernel, by decide +kernel, by decide +kernel⟩

end Validator

end ManifestPolicy
