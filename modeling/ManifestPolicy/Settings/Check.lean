import ManifestPolicy.Number.Decimal
import ManifestPolicy.Rule.Check
import ManifestPolicy.Settings.Basic
import ManifestPolicy.Text.Identifier

/-!
# Checking settings

Settings are read from a mapping of sections, each a mapping of choices. A choice may go by its
name or by its older spelling, of which the first one wins. Truth values and numbers may be given
as text. Sections ignore what they do not know; the settings as a whole do not.
-/

namespace ManifestPolicy

open Checked

namespace Settings

/-- Whether the text is the word in any case. -/
def isWord (text word : String) : Bool := text.toList.map Char.toLower = word.toList

/-- The truth value that a text names. -/
def boolOfText (text : String) : Option Bool :=
  if ["0", "off", "f", "false", "n", "no"].any (isWord text) then some false
  else if ["1", "on", "t", "true", "y", "yes"].any (isWord text) then some true
  else none

/-- A truth value, or a number or text that stands for one. -/
def checkBool : Value → Checked Bool
  | .bool b => .ok b
  | .int n =>
    if n = 0 then .ok false else if n = 1 then .ok true
    else if -Int.pow 2 63 ≤ n ∧ n < Int.pow 2 63 then refuse .unreadableBool
    else refuse .notBool
  | .float x =>
    match x.toInt? with
    | some n =>
      if n = 0 then .ok false else if n = 1 then .ok true
      else if -Int.pow 2 63 < n ∧ n < Int.pow 2 63 then refuse .unreadableBool
      else refuse .notBool
    | none => refuse .notBool
  | .str s =>
    match boolOfText s with
    | some b => .ok b
    | none => refuse .unreadableBool
  | .bytes bs =>
    match Text.Utf8.decode ⟨bs.toArray⟩ with
    | .ok s =>
      match boolOfText s with
      | some b => .ok b
      | none => refuse .unreadableBool
    | .error _ => refuse .unreadableBool
  | _ => refuse .notBool

/-- A truth value, or nothing. -/
def checkOptionalBool : Value → Checked (Option Bool)
  | .null => .ok none
  | v => (checkBool v).map some

/-- The text without the blanks that may surround a number. -/
def trimNumber (cs : List Char) : List Char := Text.stripNumeral cs

/-- The text without single underscores inside it. -/
def dropUnderscores (cs : List Char) : Option (List Char) :=
  if cs.head? = some '_' ∨ cs.getLast? = some '_' ∨ Text.occursIn ['_', '_'] cs then none
  else some (cs.filter (· ≠ '_'))

/-- The number that a text writes, in ASCII digits. -/
def numberOfText (text : String) : Option Binary64 :=
  let cs := text.toList
  match Decimal.signed? (trimNumber cs) with
  | some x => some x
  | none => (dropUnderscores cs).bind fun cs => Decimal.signed? (trimNumber cs)

/-- A number, or a text or truth value that stands for one. -/
def checkNumber : Value → Checked Binary64
  | .float x => .ok x
  | .int n =>
    match Binary64.ofInt n with
    | .infinite _ => refuse .notNumber
    | x => .ok x
  | .bool b => .ok (if b then .one else .zero)
  | .str s =>
    match numberOfText s with
    | some x => .ok x
    | none => refuse .unreadableNumber
  | .bytes bs =>
    match Text.Utf8.decode ⟨bs.toArray⟩ with
    | .ok s =>
      match numberOfText s with
      | some x => .ok x
      | none => refuse .unreadableNumber
    | .error _ => refuse .unreadableNumber
  | _ => refuse .notNumber

/-- A time, which is refused if it is zero or less. -/
def checkTimeout (v : Value) : Checked Binary64 :=
  match checkNumber v with
  | .error is => .error is
  | .ok x =>
    if x.le .zero then refuse (.refused "timeout_seconds must be > 0") else .ok x

/-- A package: names with points between them. -/
def checkPackage (v : Value) : Checked String :=
  match checkString v with
  | .error is => .error is
  | .ok s =>
    if (Text.splitAt '.' s.toList).all Text.isIdentifier then .ok s
    else refuse (.refused s!"package must be a dotted identifier, got: {s}")

/-- One of a few names. -/
def checkChoice {α : Type} (all : List α) (name : α → String) (v : Value) : Checked α :=
  let refused := refuse (.notChoice (all.map name))
  match checkString v with
  | .error _ => refused
  | .ok s =>
    match all.find? fun a => name a = s with
    | some a => .ok a
    | none => refused

/-- Texts under names. -/
def checkTexts (v : Value) : Checked (List (String × String)) :=
  match v with
  | .map entries =>
    let rec go : List (Value × Value) → Checked (List (String × String))
      | [] => .ok []
      | (k, v) :: rest =>
        match k with
        | .str key => both List.cons (under key ((checkString v).map fun s => (key, s))) (go rest)
        | _ => go rest
    go entries
  | _ => refuse .notMapping

/-- A choice with a default, under its name or under an older one. -/
def choice {α : Type} (name older : String) (dflt : α) (check : Value → Checked α)
    (entries : List (Value × Value)) : Checked α :=
  match Value.entry? name entries with
  | some v => under name (check v)
  | none => optional older dflt check entries

/-- The choices for policies. -/
def checkPolicies (v : Value) : Checked PolicySettings := do
  let es ← checkMapping "PoliciesConfig" v
  let d : PolicySettings := {}
  app (app (app (app (app (app (.ok PolicySettings.mk)
    (optional "dir" d.dir checkString es))
    (choice "rulesFile" "rules_file" d.rulesFile checkString es))
    (choice "generatedFile" "generated_file" d.generatedFile checkString es))
    (optional "package" d.package checkPackage es))
    (choice "strictOperators" "strict_operators" d.strictOperators checkBool es))
    (choice "regoSyntax" "rego_syntax" d.dialect (checkChoice Dialect.all Dialect.name) es)

/-- The choices for the renderer. -/
def checkRenderer (v : Value) : Checked RendererSettings := do
  let es ← checkMapping "RendererConfig" v
  let d : RendererSettings := {}
  app (app (app (app (app (app (.ok RendererSettings.mk)
    (optional "enabled" d.enabled checkBool es))
    (optional "command" d.command checkString es))
    (choice "valuesFile" "values_file" d.valuesFile checkString es))
    (choice "outputDir" "output_dir" d.outputDir checkString es))
    (choice "renderedFile" "rendered_file" d.renderedFile checkString es))
    (choice "timeoutSeconds" "timeout_seconds" d.timeout checkTimeout es)

/-- The choices for the evaluator. -/
def checkEvaluator (v : Value) : Checked EvaluatorSettings := do
  let es ← checkMapping "EvaluatorConfig" v
  let d : EvaluatorSettings := {}
  app (app (app (app (.ok EvaluatorSettings.mk)
    (optional "command" d.command checkString es))
    (optional "format" d.form (checkChoice OutputForm.all OutputForm.name) es))
    (choice "timeoutSeconds" "timeout_seconds" d.timeout checkTimeout es))
    (choice "v0Compatible" "v0_compatible" d.v0Compatible checkOptionalBool es)

/-- The choices for the sanitizer. -/
def checkSanitizer (v : Value) : Checked SanitizerSettings := do
  let es ← checkMapping "SanitizerConfig" v
  let d : SanitizerSettings := {}
  app (app (app (.ok SanitizerSettings.mk)
    (choice "valuePlaceholders" "value_placeholders" d.placeholders checkTexts es))
    (choice "includePlaceholder" "include_placeholder" d.includePlaceholder checkString es))
    (choice "sanitizedFile" "sanitized_file" d.sanitizedFile checkString es)

/-- Whether runs wait for each other. -/
def checkRun (v : Value) : Checked Bool := do
  optional "serialize" true checkBool (← checkMapping "RunConfig" v)

/-- How much is logged. -/
def checkLogging (v : Value) : Checked LogLevel := do
  optional "level" .info (checkChoice LogLevel.all LogLevel.name)
    (← checkMapping "LoggingConfig" v)

/-- The sections in order. -/
def sections : List String :=
  ["policies", "renderer", "evaluator", "sanitizer", "run", "logging"]

/-- The entries that are no section, each refused. -/
def checkExtras : List (Value × Value) → Checked Unit
  | [] => .ok ()
  | (k, _) :: rest =>
    match k with
    | .str key =>
      if sections.contains key then checkExtras rest
      else
        let refused : Checked Unit := under key (refuse .extra)
        both (fun _ _ => ()) refused (checkExtras rest)
    | _ => checkExtras rest

/-- The settings with these sections. -/
def checkSections (es : List (Value × Value)) : Checked Settings :=
  let settings := app (app (app (app (app (app (.ok Settings.mk)
    (optional "policies" {} checkPolicies es))
    (optional "renderer" {} checkRenderer es))
    (optional "evaluator" {} checkEvaluator es))
    (optional "sanitizer" {} checkSanitizer es))
    (optional "run" true checkRun es))
    (optional "logging" .info checkLogging es)
  both (fun s _ => s) settings (checkExtras es)

/-- The settings that a mapping gives. -/
def ofEntries (es : List (Value × Value)) : Except Issues Settings :=
  named "KubePolicyConfig" (checkSections es)

end Settings

end ManifestPolicy
