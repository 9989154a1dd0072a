import ManifestPolicy.Failure
import ManifestPolicy.Path
import ManifestPolicy.Tool.Output

/-!
# Results

A validation ends with a result: there were no violations, or some, or it failed at some stage.
-/

namespace ManifestPolicy

/-- The stages of a validation in order; a template is either rendered or made plain. -/
inductive Stage where
  | start
  | detectTemplate
  | render
  | sanitizeFallback
  | compile
  | evaluate
  | report
deriving Repr, DecidableEq

/-- The name of a stage. -/
def Stage.name : Stage → String
  | .start => "start"
  | .detectTemplate => "detect_template"
  | .render => "render"
  | .sanitizeFallback => "sanitize_fallback"
  | .compile => "compile"
  | .evaluate => "evaluate"
  | .report => "report"

/-- The stages in order. -/
def Stage.all : List Stage :=
  [.start, .detectTemplate, .render, .sanitizeFallback, .compile, .evaluate, .report]

/-- How a validation ends. -/
inductive Outcome where
  | noViolations
  /-- There were violations, with what the evaluator said of them. -/
  | violations (output : String)
  | failure (kind : FailureKind) (message : String)
deriving Repr, DecidableEq

namespace Outcome

/-- The name of an outcome. -/
def name : Outcome → String
  | .noViolations => "no_violations"
  | .violations _ => "violations"
  | .failure .. => "failure"

/-- The exit status that stands for an outcome. -/
def exitCode : Outcome → Nat
  | .noViolations => 0
  | .violations _ => 1
  | .failure .. => 2

/-- What an outcome says in words. -/
def message : Outcome → String
  | .noViolations => "No policy violations found."
  | .violations _ => ""
  | .failure _ message => message

/-- What the evaluator said. -/
def output : Outcome → String
  | .violations output => output
  | _ => ""

/-- Why it failed, if it did. -/
def kind? : Outcome → Option FailureKind
  | .failure kind _ => some kind
  | _ => none

/-- The reasons for the violations. -/
def reasons : Outcome → Except Output.Fault (List String)
  | .violations output => Output.reasons output
  | _ => .ok []

end Outcome

/-- A result. -/
structure Result where
  outcome : Outcome
  stage : Stage := .report
  document : Option Path := none
  /-- What was given to the evaluator, or would have been. -/
  evaluated : Option Path := none
  warnings : List String := []
deriving Repr, DecidableEq

namespace Result

/-- A text that may be missing. -/
def orNull : Option String → Json
  | some s => .str s
  | none => .null

/-- A result as a JSON object. -/
def toJson (r : Result) : Except Output.Fault Json := do
  let reasons ← r.outcome.reasons
  return .obj [
    ("outcome", .str r.outcome.name),
    ("exit_code", .int r.outcome.exitCode),
    ("stage", .str r.stage.name),
    ("document", orNull (r.document.map Path.text)),
    ("evaluated", orNull (r.evaluated.map Path.text)),
    ("error_kind", orNull (r.outcome.kind?.map FailureKind.text)),
    ("message", .str r.outcome.message),
    ("output", .str r.outcome.output),
    ("reasons", .arr (reasons.map .str)),
    ("warnings", .arr (r.warnings.map .str))]

end Result

end ManifestPolicy
