import ManifestPolicy.Proofs.RunCourse

/-!
# Which kind of failure belongs to which stage

A run that meets with trouble ends at the stage that it had reached, and each
stage can meet with a few kinds of trouble only. They are collected here from
the parts of a run outwards: what reading a file, parsing the rules, making a
template plain or calling a tool can fail with. `FailureKind.stages` is the
table, read the other way round.

Two things are out of a run's hands. A tool may break down in a way of its
own, with any kind of trouble (`Session.Unbroken` excludes it), and so may the
one who is given notice (`Validator.Calm`).
-/

namespace ManifestPolicy

/-- The kind that a run reports of a trouble. -/
def Trouble.kind : Trouble → FailureKind
  | .failure f => f.kind
  | .mishap _ => .unknown

/-- The stages at which a run can end with a kind of failure. -/
def FailureKind.stages : FailureKind → List Stage
  | .parse => [.compile]
  | .schema => [.sanitizeFallback, .compile]
  | .io => [.detectTemplate, .sanitizeFallback, .compile]
  | .render => [.render]
  | .evaluation => [.evaluate]
  | .unknown => Stage.all

theorem Trouble.outcome_eq (t : Trouble) : ∃ message, t.outcome = .failure t.kind message := by
  cases t <;> exact ⟨_, rfl⟩

variable {t : Trouble} {fs fs' : FileSystem} {path : Path}

/-! ## Files -/

theorem Template.kind_trouble (message : String) (e : FileError) :
    (trouble message e).kind ∈ [FailureKind.io, .unknown] := by
  cases e <;> simp [trouble, Trouble.kind, Failure.kind, FailureClass.kind]

theorem FileError.kind_expected (message : String) (e : FileError) :
    (expected message e).kind ∈ [FailureKind.io, .unknown] := by
  cases e <;> simp [expected, isOfSystem, Trouble.kind, Failure.kind, FailureClass.kind]

theorem Validator.kind_of_isTemplate {q : Request} {s : Session}
    (h : isTemplate q s = .error t) : t.kind ∈ [FailureKind.io, .unknown] := by
  unfold isTemplate at h
  split at h
  · cases h
  · simp only [Template.isTemplateFile, Template.isTemplateShown] at h
    split at h
    · cases h
    · injection h with h
      rw [← h]
      exact Template.kind_trouble _ _

theorem Template.kind_of_sanitizeFile {settings : SanitizerSettings}
    (h : sanitizeFile settings fs path = (fs', .error t)) :
    t.kind ∈ [FailureKind.io, .unknown] := by
  unfold sanitizeFile at h
  dsimp only at h
  split at h
  · injection h with _ h
    injection h with h
    rw [← h]
    exact kind_trouble _ _
  · split at h
    · injection h with _ h
      injection h with h
      rw [← h]
      exact FileError.kind_expected _ _
    · cases h

theorem Policy.kind_of_save {source : String} (h : save source path fs = (fs', some t)) :
    t.kind ∈ [FailureKind.io, .unknown] := by
  unfold save at h
  split at h
  · cases h
    exact FileError.kind_expected _ _
  · obtain ⟨e, _, rfl⟩ := Option.map_eq_some_iff.1 (Prod.mk.inj h).2
    exact FileError.kind_expected _ _

/-! ## Documents -/

theorem Template.kind_of_firstDocument {text : String} (h : firstDocument text = .error t) :
    t.kind ∈ [FailureKind.schema, .unknown] := by
  unfold firstDocument at h
  split at h
  · cases h; simp [Trouble.kind]
  · cases h; simp [Trouble.kind, notYaml, Failure.kind, FailureClass.kind]
  · split at h
    · cases h; simp [Trouble.kind, notStructured, Failure.kind, FailureClass.kind]
    · split at h
      · cases h
      · cases h; simp [Trouble.kind, notStructured, Failure.kind, FailureClass.kind]

theorem RuleSet.kind_of_ofTree {source : String} {tree : Value}
    (h : ofTree source tree = .error t) : t.kind ∈ [FailureKind.schema, .unknown] := by
  unfold ofTree at h
  split at h
  · cases h; simp [Trouble.kind, Failure.noRules, Failure.kind, FailureClass.kind]
  · split at h
    · cases h; simp [Trouble.kind]
    · split at h
      · cases h
      · cases h; simp [Trouble.kind, Failure.invalidRules, Failure.kind, FailureClass.kind]

theorem RuleSet.kind_of_parse {source text : String} (h : parse source text = .error t) :
    t.kind ∈ [FailureKind.parse, .schema, .unknown] := by
  have tree {tree : Value} (h : ofTree source tree = .error t) :
      t.kind ∈ [FailureKind.parse, .schema, .unknown] :=
    List.mem_cons_of_mem _ (kind_of_ofTree h)
  unfold parse at h
  split at h
  · cases h; simp [Trouble.kind]
  · cases h; simp [Trouble.kind, Failure.notYaml, Failure.kind, FailureClass.kind]
  · next d _ =>
      simp only [ofDocument] at h
      split at h
      · cases ho : ofTree source (d.opened ruleLevels d.root) with
        | ok s => rw [ho] at h; cases h
        | error t' => rw [ho] at h; cases h; exact tree ho
      · exact tree h

theorem RuleSet.kind_of_readFile (h : readFile fs path = .error t) :
    t.kind ∈ [FailureKind.parse, .io, .unknown] := by
  unfold readFile at h
  split at h
  · cases h; simp [Trouble.kind]
  · cases h; simp [Trouble.kind, Failure.rulesMissing, Failure.kind, FailureClass.kind]
  · split at h
    · cases h
    · cases h; simp [Trouble.kind, Failure.rulesNotText, Failure.kind, FailureClass.kind]
    · cases h; simp [Trouble.kind]
    · cases h; simp [Trouble.kind, Failure.rulesUnreadable, Failure.kind, FailureClass.kind]

theorem RuleSet.kind_of_load (h : load fs path = .error t) :
    t.kind ∈ [FailureKind.parse, .schema, .io, .unknown] := by
  simp only [load, bind, Except.bind] at h
  split at h
  · next hr =>
      cases h
      have within : [FailureKind.parse, .io, .unknown] ⊆ [.parse, .schema, .io, .unknown] := by
        decide
      exact within (kind_of_readFile hr)
  · have within : [FailureKind.parse, .schema, .unknown] ⊆ [.parse, .schema, .io, .unknown] := by
      decide
    exact within (kind_of_parse h)

theorem Policy.kind_of_compile {settings : PolicySettings} {rules : RuleSet}
    (h : compile settings rules = .error t) : t.kind ∈ [FailureKind.schema, .unknown] := by
  unfold compile at h
  split at h
  · cases h; simp [Trouble.kind, unsupported, Failure.kind, FailureClass.kind]
  · split at h
    · cases h; simp [Trouble.kind]
    · cases h

/-! ## Tools -/

/-- No tool breaks down in a way of its own. -/
def Session.Unbroken (s : Session) : Prop := ∀ reply ∈ s.replies, ∀ t, reply.answer ≠ .broken t

variable {s s' : Session}

theorem Session.Unbroken.ask (h : s.Unbroken) (call : Call) : (s.ask call).1.Unbroken := by
  intro reply hreply
  rw [replies_ask] at hreply
  exact h reply (List.mem_of_mem_tail hreply)

theorem Session.Unbroken.answer (h : s.Unbroken) (call : Call) (t : Trouble) :
    (s.ask call).2 ≠ .broken t := by
  rw [ask_eq]
  unfold reply
  cases hreplies : s.replies with
  | nil => exact fun e => by cases e
  | cons reply rest => exact h reply (by rw [hreplies]; exact List.mem_cons_self) t

variable {a : Answer}

theorem Renderer.isAvailable_ok (ha : ∀ t, a ≠ .broken t) : ∃ b, isAvailable a = .ok b := by
  cases a with
  | broken t => exact absurd rfl (ha t)
  | _ => exact ⟨_, rfl⟩

theorem Renderer.kind_of_rendered {settings : RendererSettings} (ha : ∀ t, a ≠ .broken t)
    (h : rendered settings path a = .error t) : t.kind = .render := by
  cases a with
  | completed c =>
      simp only [rendered] at h
      split at h
      · cases h; rfl
      · cases h
  | notRun text => cases h; rfl
  | timedOut text => cases h; rfl
  | broken t' => exact absurd rfl (ha t')

theorem Evaluator.kind_of_output {e : Evaluator} {document policy : Path}
    (ha : ∀ t, a ≠ .broken t) (h : e.output document policy a = .error t) :
    t.kind ∈ [FailureKind.evaluation, .unknown] := by
  have failure (message details : String) :
      (Evaluator.failure message details).kind ∈ [FailureKind.evaluation, .unknown] :=
    List.mem_cons_self
  cases a with
  | completed c =>
      simp only [output] at h
      split at h
      · cases h; exact failure _ _
      · split at h
        · cases h; simp [Trouble.kind]
        · cases h
        · cases h
  | notRun text => cases h; exact failure _ _
  | timedOut text => cases h; exact failure _ _
  | broken t' => exact absurd rfl (ha t')

/-! ## The stages -/

namespace Validator

variable {v : Validator} {q : Request}

/-- Whoever is given notice has no failure of the kinds that runs report. -/
def Calm (v : Validator) : Prop := ∀ n f, v.trouble n ≠ some (.failure f)

theorem Calm.kind (h : v.Calm) {n : Notice} (ht : (v.notify n s) = (s', some t)) :
    t.kind = .unknown := by
  injection ht with _ ht
  cases t with
  | failure f => exact absurd ht (h n f)
  | mishap m => rfl

theorem detect_stages (h : isTemplate q s = .error t) : .detectTemplate ∈ t.kind.stages := by
  have within : ∀ k ∈ [FailureKind.io, .unknown], .detectTemplate ∈ k.stages := by decide
  exact within _ (kind_of_isTemplate h)

theorem makePlain_stages {document : Path} {r : Session}
    (h : v.makePlain document s = (r, .error t)) : .sanitizeFallback ∈ t.kind.stages := by
  have within : ∀ k ∈ [FailureKind.io, .schema, .unknown], .sanitizeFallback ∈ k.stages := by
    decide
  refine within _ ?_
  unfold makePlain at h
  split at h
  · next hs =>
      cases h
      have sub : [FailureKind.io, .unknown] ⊆ [.io, .schema, .unknown] := by decide
      exact sub (Template.kind_of_sanitizeFile hs)
  · dsimp only at h
    split at h
    · cases h
      have sub : [FailureKind.io, .unknown] ⊆ [.io, .schema, .unknown] := by decide
      exact sub (FileError.kind_expected _ _)
    · split at h
      · next hf =>
          cases h
          have sub : [FailureKind.schema, .unknown] ⊆ [.io, .schema, .unknown] := by decide
          exact sub (Template.kind_of_firstDocument hf)
      · cases h

theorem generate_stages (hv : v.Calm) {workspace : Path} {r : Session}
    (h : v.generate workspace s = (r, .error t)) : .compile ∈ t.kind.stages := by
  have within : ∀ k ∈ [FailureKind.parse, .schema, .io, .unknown], .compile ∈ k.stages := by
    decide
  refine within _ ?_
  unfold generate at h
  dsimp only at h
  split at h
  · next hl => cases h; exact RuleSet.kind_of_load hl
  · split at h
    · next hc =>
        cases h
        have sub : [FailureKind.schema, .unknown] ⊆ [.parse, .schema, .io, .unknown] := by decide
        exact sub (Policy.kind_of_compile hc)
    · split at h
      · next hs =>
          cases h
          have sub : [FailureKind.io, .unknown] ⊆ [.parse, .schema, .io, .unknown] := by decide
          exact sub (Policy.kind_of_save hs)
      · split at h
        · next hn => cases h; rw [hv.kind hn]; decide
        · cases h

end Validator

end ManifestPolicy
