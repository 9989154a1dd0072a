import ManifestPolicy.Path
import ManifestPolicy.Settings.Basic
import ManifestPolicy.Tool.Call

/-!
# The evaluator

The evaluator is a tool that answers a query about a document in the light of a policy. It is told
when the policy is written in the older dialect. An output that names no reason for a denial
counts as no output.
-/

namespace ManifestPolicy

/-- The evaluator as it is called: its settings, the query, and the dialect of the policy. -/
structure Evaluator where
  settings : EvaluatorSettings
  query : String
  dialect : Dialect
deriving Repr, DecidableEq

namespace Evaluator

/-- The query for the policies of the default package. -/
def defaultQuery : String := "data.kubernetes.security.deny"

/-- The evaluator for the policies that the settings ask for. -/
def ofSettings (s : Settings) : Evaluator := ⟨s.evaluator, s.policies.query, s.policies.dialect⟩

/-- Whether the evaluator is told to accept the older dialect. -/
def acceptsOlder (e : Evaluator) : Bool :=
  e.settings.v0Compatible.getD (e.dialect = .v0)

/-- The call that evaluates a document. -/
def call (e : Evaluator) (document policy : Path) : Call :=
  ⟨[e.settings.command, "eval", "--format", e.settings.form.name,
      "--input", document.text, "--data", policy.text]
    ++ (if e.acceptsOlder then ["--v0-compatible"] else []) ++ [e.query], e.settings.timeout⟩

/-- A failure of the evaluator. -/
def failure (message details : String) : Trouble := .failure ⟨.evaluation, message, some details⟩

/-- What the evaluator has to say of a document, or nothing, by the answer to its call. -/
def output (e : Evaluator) (document policy : Path) : Answer → Except Trouble String
  | .completed c =>
    if c.failed then
      .error (failure s!"{e.settings.command} eval failed" (c.diagnostic (e.call document policy)))
    else
      match Output.isEmpty c.stdout with
      | .error f => .error (.mishap (.output f))
      | .ok true => .ok ""
      | .ok false => .ok c.stdout
  | .notRun text => .error (failure s!"Failed to run {e.settings.command}" text)
  | .timedOut text => .error (failure s!"Policy evaluation of {document.name} timed out" text)
  | .broken t => .error t

end Evaluator

end ManifestPolicy
