import ManifestPolicy.Json.Reader
import ManifestPolicy.Settings.Check
import ManifestPolicy.Tool.Output

/-!
# Settings documents

Settings are written as a JSON object of sections.
-/

namespace ManifestPolicy.Settings

/-- Why a text gives no settings. -/
inductive Fault where
  | json (fault : Json.Fault)
  /-- The document is a value of this type and not an object. -/
  | notObject (typeName : String)
  | issues (issues : Issues)
deriving Repr, DecidableEq

/-- The wording of a fault. -/
def Fault.text : Fault → String
  | .json f => f.message
  | .notObject t =>
    s!"kubepolicy.config.KubePolicyConfig() argument after ** must be a mapping, not {t}"
  | .issues e => e.text

/-- The settings of a JSON document. -/
def ofJson : Json → Except Fault Settings
  | .obj members =>
    match ofEntries (Json.toEntries members) with
    | .ok s => .ok s
    | .error e => .error (.issues e)
  | v => .error (.notObject (Output.typeName v))

/-- The settings that a text gives. -/
def read (text : String) : Except Fault Settings :=
  match Json.read text with
  | .ok v => ofJson v
  | .error f => .error (.json f)

end ManifestPolicy.Settings
