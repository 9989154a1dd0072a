import ManifestPolicy.Number.Binary64
import ManifestPolicy.Text.Quoted

/-!
# Settings

What can be chosen for a workspace: where its rules and its policy are, how templates are rendered
or made plain, how the evaluator is called, and how runs behave.
-/

namespace ManifestPolicy

/-- The dialects of the policy language. -/
inductive Dialect where
  | v0
  | v1
deriving Repr, DecidableEq

/-- The name of a dialect. -/
def Dialect.name : Dialect → String
  | .v0 => "v0"
  | .v1 => "v1"

/-- The dialects in order. -/
def Dialect.all : List Dialect := [.v0, .v1]

/-- The dialect with the name. -/
def Dialect.ofName? (name : String) : Option Dialect := all.find? fun d => d.name = name

/-- What to say of a name that no dialect has. -/
def Dialect.unknown (name : String) : String := Text.quoted name ++ " is not a valid RegoSyntax"

/-- The forms in which the evaluator can print its answer. -/
inductive OutputForm where
  | json
  | raw
  | pretty
deriving Repr, DecidableEq

/-- The name of a form. -/
def OutputForm.name : OutputForm → String
  | .json => "json"
  | .raw => "raw"
  | .pretty => "pretty"

/-- The forms in order. -/
def OutputForm.all : List OutputForm := [.json, .raw, .pretty]

/-- How much is logged. -/
inductive LogLevel where
  | error
  | warn
  | info
  | debug
deriving Repr, DecidableEq

/-- The name of a level. -/
def LogLevel.name : LogLevel → String
  | .error => "error"
  | .warn => "warn"
  | .info => "info"
  | .debug => "debug"

/-- The levels in order. -/
def LogLevel.all : List LogLevel := [.error, .warn, .info, .debug]

/-- The level with the name. -/
def LogLevel.ofName? (name : String) : Option LogLevel := all.find? fun l => l.name = name

/-- What to say of a name that no level has. -/
def LogLevel.unknown (name : String) : String :=
  s!"Invalid log level '{name}'. Must be one of: " ++ ", ".intercalate (all.map LogLevel.name)

/-- Where the rules and the generated policy are, and how the policy is written. -/
structure PolicySettings where
  dir : String := "policies"
  rulesFile : String := "rules.yaml"
  generatedFile : String := "generated.rego"
  package : String := "kubernetes.security"
  /-- Whether unknown operators are refused. -/
  strictOperators : Bool := true
  dialect : Dialect := .v0
deriving Repr, DecidableEq

/-- The time that a tool may take unless another is chosen, in seconds. -/
def defaultTimeout : Binary64 := .finite false (60 * Nat.pow 2 47) (-47)

/-- How templates are rendered. -/
structure RendererSettings where
  enabled : Bool := true
  command : String := "helm"
  valuesFile : String := "values.yaml"
  outputDir : String := "rendered-output"
  renderedFile : String := "kube.yaml"
  timeout : Binary64 := defaultTimeout
deriving Repr, DecidableEq

/-- How the evaluator is called. -/
structure EvaluatorSettings where
  command : String := "opa"
  form : OutputForm := .raw
  timeout : Binary64 := defaultTimeout
  /-- Whether the evaluator is told to accept the dialect v0; without a choice it is told so when
  the policy is written in that dialect. -/
  v0Compatible : Option Bool := none
deriving Repr, DecidableEq

/-- How templates are made plain without being rendered. -/
structure SanitizerSettings where
  /-- Values and the texts that take their places, in order. -/
  placeholders : List (String × String) :=
    [("config.dependencyScanner", "default-dependency-scanner"),
      ("config.vulnerabilityDatabase", "default-vulnerability-database")]
  includePlaceholder : String := "default-name"
  sanitizedFile : String := "sanitized.yaml"
deriving Repr, DecidableEq

/-- All settings. -/
structure Settings where
  policies : PolicySettings := {}
  renderer : RendererSettings := {}
  evaluator : EvaluatorSettings := {}
  sanitizer : SanitizerSettings := {}
  /-- Whether runs in one workspace wait for each other. -/
  serialize : Bool := true
  logLevel : LogLevel := .info
deriving Repr, DecidableEq

/-- The query for the reasons of denial of the generated policy. -/
def PolicySettings.query (s : PolicySettings) : String := s!"data.{s.package}.deny"

end ManifestPolicy
