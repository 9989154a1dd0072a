import ManifestPolicy.Json.Basic
import ManifestPolicy.Settings.Basic

/-!
# Published schemas

The forms of rule documents and of settings documents are published as JSON schemas. The members
of a schema are in alphabetical order, except those that describe it as a whole.

A schema follows the structures whose forms it gives. Each of them is an object whose properties
are the fields, with their types and with their names for titles; a field is required unless it
has a default, which is then shown. What a field is checked for beyond its type is not said.
-/

namespace ManifestPolicy.Schema

/-- A reference to a form that a schema defines. -/
def reference (name : String) : Json := .obj [("$ref", .str ("#/$defs/" ++ name))]

/-- A part with a title and a type. -/
def typed (title type : String) : Json := .obj [("title", .str title), ("type", .str type)]

/-- A part with a title, a type and a default. -/
def defaulted (dflt : Json) (title type : String) : Json :=
  .obj [("default", dflt), ("title", .str title), ("type", .str type)]

/-- A part that has a type or is nothing, and is nothing by default. -/
def nullable (title type : String) : Json :=
  .obj [
    ("anyOf", .arr [.obj [("type", .str type)], .obj [("type", .str "null")]]),
    ("default", .null),
    ("title", .str title)]

/-- Names that have to be there. -/
def requirement (names : List String) : List (String × Json) :=
  if names.isEmpty then [] else [("required", .arr (names.map .str))]

/-- The form of an object. -/
def object (title description : String) (properties : List (String × Json))
    (required : List String) : Json :=
  .obj ([("description", .str description), ("properties", .obj properties)]
    ++ requirement required ++ [("title", .str title), ("type", .str "object")])

/-- The form of a text that is one of a few. -/
def choice (title description : String) (choices : List String) : Json :=
  .obj [
    ("description", .str description),
    ("enum", .arr (choices.map .str)),
    ("title", .str title),
    ("type", .str "string")]

/-- What every published schema ends with. -/
def ending (title : String) : List (String × Json) :=
  [("title", .str title),
    ("type", .str "object"),
    ("$schema", .str "https://json-schema.org/draft/2020-12/schema"),
    ("version", .str "1.0")]

/-- The form of a condition. -/
def condition : Json :=
  object "Condition" "A single guard evaluated against the input document."
    [("path", typed "Path" "string"),
      ("operator", typed "Operator" "string"),
      ("value", .obj [("default", .null), ("title", .str "Value")]),
      ("value_from", nullable "Value From" "string")]
    ["path", "operator"]

/-- The form of what selects documents. -/
def matchSpec : Json :=
  object "MatchSpec" "Selects which documents a rule applies to."
    [("kind", typed "Kind" "string")] ["kind"]

/-- The form of a rule. -/
def rule : Json :=
  object "Rule" "One declarative rule; compiles to one denial clause."
    [("name", typed "Name" "string"),
      ("match", reference "MatchSpec"),
      ("conditions", .obj [
        ("default", .arr []),
        ("items", reference "Condition"),
        ("title", .str "Conditions"),
        ("type", .str "array")]),
      ("message", typed "Message" "string")]
    ["name", "match", "message"]

/-- The schema of rule documents. -/
def rules : Json :=
  .obj ([
    ("$defs", .obj [("Condition", condition), ("MatchSpec", matchSpec), ("Rule", rule)]),
    ("description", .str "Declarative rule set compiled into Rego (policies/rules.yaml)"),
    ("properties", .obj [
      ("rules", .obj [
        ("items", reference "Rule"), ("title", .str "Rules"), ("type", .str "array")])]),
    ("required", .arr [.str "rules"])]
    ++ ending "kubepolicy-rules-v1")

/-- A text with a default. -/
def textPart (title dflt : String) : Json := defaulted (.str dflt) title "string"

/-- A truth value with a default. -/
def boolPart (title : String) (dflt : Bool) : Json := defaulted (.bool dflt) title "boolean"

/-- A choice with a default. -/
def choicePart (form dflt : String) : Json :=
  .obj [("$ref", .str ("#/$defs/" ++ form)), ("default", .str dflt)]

/-- The forms of the sections of settings, and of the choices in them. -/
def sectionForms : List (String × Json) :=
  let p : PolicySettings := {}
  let r : RendererSettings := {}
  let e : EvaluatorSettings := {}
  let z : SanitizerSettings := {}
  [("EvaluatorConfig", object "EvaluatorConfig" "External policy evaluator (opa) section."
      [("command", textPart "Command" e.command),
        ("format", choicePart "EvaluatorFormat" e.form.name),
        ("timeoutSeconds", defaulted (.float e.timeout) "Timeoutseconds" "number"),
        ("v0Compatible", nullable "V0Compatible" "boolean")] []),
    ("EvaluatorFormat", choice "EvaluatorFormat"
      "Output formats accepted by \x60\x60opa eval --format\x60\x60."
      (OutputForm.all.map OutputForm.name)),
    ("LogLevel", choice "LogLevel" "Logging levels." (LogLevel.all.map LogLevel.name)),
    ("LoggingConfig", object "LoggingConfig" "Logging configuration section."
      [("level", choicePart "LogLevel" LogLevel.info.name)] []),
    ("PoliciesConfig", object "PoliciesConfig" "Rule set and generated policy locations."
      [("dir", textPart "Dir" p.dir),
        ("rulesFile", textPart "Rulesfile" p.rulesFile),
        ("generatedFile", textPart "Generatedfile" p.generatedFile),
        ("package", textPart "Package" p.package),
        ("strictOperators", boolPart "Strictoperators" p.strictOperators),
        ("regoSyntax", choicePart "RegoSyntax" p.dialect.name)] []),
    ("RegoSyntax", choice "RegoSyntax" "Rego dialect emitted by the policy compiler."
      (Dialect.all.map Dialect.name)),
    ("RendererConfig", object "RendererConfig" "External template renderer (helm) section."
      [("enabled", boolPart "Enabled" r.enabled),
        ("command", textPart "Command" r.command),
        ("valuesFile", textPart "Valuesfile" r.valuesFile),
        ("outputDir", textPart "Outputdir" r.outputDir),
        ("renderedFile", textPart "Renderedfile" r.renderedFile),
        ("timeoutSeconds", defaulted (.float r.timeout) "Timeoutseconds" "number")] []),
    ("RunConfig", object "RunConfig" "Per-request run behaviour."
      [("serialize", boolPart "Serialize" true)] []),
    ("SanitizerConfig", object "SanitizerConfig" "Fallback sanitization of template documents."
      [("valuePlaceholders", .obj [
          ("additionalProperties", .obj [("type", .str "string")]),
          ("title", .str "Valueplaceholders"),
          ("type", .str "object")]),
        ("includePlaceholder", textPart "Includeplaceholder" z.includePlaceholder),
        ("sanitizedFile", textPart "Sanitizedfile" z.sanitizedFile)] [])]

/-- The schema of settings documents. -/
def settings : Json :=
  .obj ([
    ("$defs", .obj sectionForms),
    ("additionalProperties", .bool false),
    ("description", .str "kubepolicy configuration file (.kubepolicy.json)"),
    ("properties", .obj [
      ("policies", reference "PoliciesConfig"),
      ("renderer", reference "RendererConfig"),
      ("evaluator", reference "EvaluatorConfig"),
      ("sanitizer", reference "SanitizerConfig"),
      ("run", reference "RunConfig"),
      ("logging", reference "LoggingConfig")])]
    ++ ending "kubepolicy-config-v1")

/-- The published schemas by their names. That of rule documents is written out field by field:
`condition`, `matchSpec`, `rule` and `rules` have the names and the defaults with which
`Condition.checkFields`, `Rule.checkMatch`, `Rule.checkFields` and `RuleSet.checkFields` look for
the fields. The defaults in that of settings are those of the settings themselves. -/
def published : List (String × Json) := [("rules", rules), ("config", settings)]

end ManifestPolicy.Schema
