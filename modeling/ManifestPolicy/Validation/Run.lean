import ManifestPolicy.Policy.File
import ManifestPolicy.Rule.File
import ManifestPolicy.Template.File
import ManifestPolicy.Template.Structure
import ManifestPolicy.Tool.Evaluator
import ManifestPolicy.Tool.Renderer
import ManifestPolicy.Validation.Request
import ManifestPolicy.Validation.Session

/-!
# Runs

A run validates one document. It finds out whether the document is a template; a template is
rendered, or made plain if there is no renderer. Then the rules of the workspace are compiled into
the generated policy, and the evaluator is asked about the document. The first trouble ends the
run with a failure at the stage that was reached.

A run waits only for tools. What it does up to its next call, or to its end, is one step, and what
it has to remember while it waits is a `Wait`: the steps are functions, so that runs can take turns.
-/

namespace ManifestPolicy

/-- What runs share: the settings, and what goes wrong when a notice is given, if anything does. -/
structure Validator where
  settings : Settings
  trouble : Notice → Option Trouble := fun _ => none

/-- What a run waits for. -/
inductive Wait where
  /-- The version of the renderer. -/
  | version
  /-- The rendered document. -/
  | rendering
  /-- The word of the evaluator on a document, under a policy. -/
  | evaluation (target policy : Path) (warnings : List String)
deriving Repr, DecidableEq

/-- How many calls a run that waits may still have, the one it waits for included. -/
def Wait.calls : Wait → Nat
  | .version => 3
  | .rendering => 2
  | .evaluation .. => 1

/-- How far a run has come. -/
inductive Progress where
  | asking (call : Call) (wait : Wait)
  | ended (r : Result)
deriving Repr, DecidableEq

/-- How many calls a run may still have. -/
def Progress.calls : Progress → Nat
  | .asking _ wait => wait.calls
  | .ended _ => 0

/-- What to say of a trouble that has no words of its own. -/
def unknownError : String := "An unknown error occurred."

/-- The outcome of a run that met with trouble. -/
def Trouble.outcome : Trouble → Outcome
  | .failure f => .failure f.kind f.text
  | .mishap m => .failure .unknown (if m.text.isEmpty then unknownError else m.text)

namespace Validator

/-- Gives notice. -/
def notify (v : Validator) (n : Notice) (s : Session) : Session × Option Trouble :=
  (s.note n, v.trouble n)

/-- What is said when a policy was generated. -/
def generated (path : Path) : Notice := .info s!"Rego file generated successfully at: {path.text}"

/-- Compiles the rules of a workspace and writes the policy. -/
def generate (v : Validator) (workspace : Path) (s : Session) : Session × Except Trouble Path :=
  let policies := v.settings.policies
  let path := policies.generatedPath workspace
  match RuleSet.load s.files (policies.rulesPath workspace) with
  | .error t => (s, .error t)
  | .ok rules =>
    match Policy.compile policies rules with
    | .error t => (s, .error t)
    | .ok policy =>
      match Policy.save policy.source path s.files with
      | (files, some t) => ({ s with files := files }, .error t)
      | (files, none) =>
        match v.notify (generated path) { s with files := files } with
        | (s, some t) => (s, .error t)
        | (s, none) => (s, .ok path)

/-- What is said when there is no renderer. -/
def noRenderer (s : RendererSettings) : String :=
  s!"Template renderer '{Renderer.name s}' is not installed or not in your PATH. "
    ++ "Proceeding as regular YAML with sanitized Helm syntax."

/-- Makes a template plain and looks at its structure. -/
def makePlain (v : Validator) (document : Path) (s : Session) : Session × Except Trouble Path :=
  match Template.sanitizeFile v.settings.sanitizer s.files document with
  | (files, .error t) => ({ s with files := files }, .error t)
  | (files, .ok plain) =>
    let s := { s with files := files }
    match files.readText plain with
    | .error e => (s, .error (e.expected s!"Failed to read '{plain.name}'"))
    | .ok text =>
      match Template.firstDocument text with
      | .error t => (s, .error t)
      | .ok _ => (s, .ok plain)

/-- The end of a run that met with trouble. -/
def fail (q : Request) (stage : Stage) (target : Path) (warnings : List String) (t : Trouble) :
    Progress :=
  .ended ⟨t.outcome, stage, some q.document, some target, warnings⟩

/-- Generates the policy and asks the evaluator about a document. -/
def judge (v : Validator) (q : Request) (target : Path) (warnings : List String) (s : Session) :
    Session × Progress :=
  match v.generate q.workspace s with
  | (s, .error t) => (s, fail q .compile target warnings t)
  | (s, .ok policy) =>
    (s, .asking ((Evaluator.ofSettings v.settings).call target policy)
      (.evaluation target policy warnings))

/-- Goes on with a template that cannot be rendered. -/
def fallBack (v : Validator) (q : Request) (s : Session) : Session × Progress :=
  let warning := noRenderer v.settings.renderer
  match v.notify (.warning warning) s with
  | (s, some t) => (s, fail q .sanitizeFallback q.document [warning] t)
  | (s, none) =>
    match v.makePlain q.document s with
    | (s, .error t) => (s, fail q .sanitizeFallback q.document [warning] t)
    | (s, .ok plain) => v.judge q plain [warning] s

/-- Whether the document of a request is a template. -/
def isTemplate (q : Request) (s : Session) : Except Trouble Bool :=
  match q.isTemplate with
  | some b => .ok b
  | none => Template.isTemplateFile s.files q.document

/-- Begins a run. -/
def start (v : Validator) (q : Request) (s : Session) : Session × Progress :=
  match isTemplate q s with
  | .error t => (s, fail q .detectTemplate q.document [] t)
  | .ok false => v.judge q q.document [] s
  | .ok true =>
    if v.settings.renderer.enabled then
      (s, .asking (Renderer.versionCall v.settings.renderer) .version)
    else v.fallBack q s

/-- The result of a run whose evaluator has answered. -/
def verdict (v : Validator) (q : Request) (target policy : Path) (warnings : List String)
    (a : Answer) : Result :=
  match (Evaluator.ofSettings v.settings).output target policy a with
  | .error t => ⟨t.outcome, .evaluate, some q.document, some target, warnings⟩
  | .ok output =>
    let outcome := if output.isEmpty then .noViolations else .violations output
    ⟨outcome, .report, some q.document, some target, warnings⟩

/-- Goes on with a run whose call is answered. -/
def resume (v : Validator) (q : Request) (wait : Wait) (a : Answer) (s : Session) :
    Session × Progress :=
  match wait with
  | .version =>
    match Renderer.isAvailable a with
    | .error t => (s, fail q .detectTemplate q.document [] t)
    | .ok true => (s, .asking (Renderer.renderCall v.settings.renderer q.document) .rendering)
    | .ok false => v.fallBack q s
  | .rendering =>
    match Renderer.rendered v.settings.renderer q.document a with
    | .error t => (s, fail q .render q.document [] t)
    | .ok target => v.judge q target [] s
  | .evaluation target policy warnings => (s, .ended (v.verdict q target policy warnings a))

theorem calls_judge_le (v : Validator) (q : Request) (target : Path) (warnings : List String)
    (s : Session) : (v.judge q target warnings s).2.calls ≤ 1 := by
  unfold judge
  split
  · exact Nat.zero_le _
  · exact Nat.le_refl _

theorem calls_fallBack_le (v : Validator) (q : Request) (s : Session) :
    (v.fallBack q s).2.calls ≤ 1 := by
  unfold fallBack
  dsimp only
  split
  · exact Nat.zero_le _
  · split
    · exact Nat.zero_le _
    · exact calls_judge_le ..

/-- Every answer leaves fewer calls to come. -/
theorem calls_resume_lt (v : Validator) (q : Request) (wait : Wait) (a : Answer) (s : Session) :
    (v.resume q wait a s).2.calls < wait.calls := by
  cases wait with
  | version =>
    simp only [resume]
    split
    · exact Nat.zero_lt_succ _
    · exact Nat.lt_succ_self _
    · exact Nat.lt_of_le_of_lt (calls_fallBack_le v q s) (by decide)
  | rendering =>
    simp only [resume]
    split
    · exact Nat.zero_lt_succ _
    · exact Nat.lt_of_le_of_lt (calls_judge_le ..) (by decide)
  | evaluation target policy warnings => exact Nat.zero_lt_one

/-- Answers the calls of a run one after the other until it ends. -/
def finish (v : Validator) (q : Request) (s : Session) : Progress → Session × Result
  | .ended r => (s, r)
  | .asking call wait =>
    let asked := s.ask call
    let resumed := v.resume q wait asked.2 asked.1
    finish v q resumed.1 resumed.2
termination_by p => p.calls
decreasing_by exact calls_resume_lt ..

/-- Runs a request by itself, up to its result. -/
def conclude (v : Validator) (q : Request) (s : Session) : Session × Result :=
  let started := v.start q s
  v.finish q started.1 started.2

/-- Why a request cannot be run, if it cannot: where runs in one workspace wait for each other, its
path has to resolve. -/
def refusal? (v : Validator) (q : Request) (files : FileSystem) : Option FileError :=
  if v.settings.serialize then
    match files.resolve q.workspace with
    | .error e => some e
    | .ok _ => none
  else none

/-- Runs a request and reports its result. A request that is refused is not reported. -/
def run (v : Validator) (q : Request) (s : Session) : Session × Except Trouble Result :=
  match v.refusal? q s.files with
  | some e => (s, .error (.mishap (.file e)))
  | none =>
    let concluded := v.conclude q s
    match v.notify (.report concluded.2) concluded.1 with
    | (s, some t) => (s, .error t)
    | (s, none) => (s, .ok concluded.2)

end Validator

end ManifestPolicy
