import ManifestPolicy.Rule.Document
import ManifestPolicy.Settings.Basic

/-!
# Rule files

The rules of a workspace are in a file whose place the settings give.
-/

namespace ManifestPolicy

/-- The place of the rules in a workspace. -/
def PolicySettings.rulesPath (s : PolicySettings) (workspace : Path) : Path :=
  (workspace.join s.dir).join s.rulesFile

/-- The failure of a rule file that is not there. -/
def Failure.rulesMissing (path : Path) : Failure :=
  ⟨.rulesMissing, s!"Rule file '{path.name}' not found in '{path.parent.name}' folder",
    some path.text⟩

/-- The failure of a rule file that is not text. -/
def Failure.rulesNotText (path : Path) (detail : String) : Failure :=
  ⟨.parse, s!"Failed to parse '{path.name}'. Ensure it is UTF-8 encoded YAML", some detail⟩

/-- The failure of a rule file that cannot be read. -/
def Failure.rulesUnreadable (path : Path) (detail : String) : Failure :=
  ⟨.io, s!"Failed to read '{path.name}'. Check the file permissions", some detail⟩

namespace RuleSet

/-- The rule file of a workspace, if there is one. -/
def findFile (files : FileSystem) (s : PolicySettings) (workspace : Path) :
    Except FileError (Option Path) :=
  let path := s.rulesPath workspace
  match files.status? path with
  | .error e => .error e
  | .ok (some (.file _)) => .ok (some path)
  | .ok _ => .ok none

/-- The text of a rule file. -/
def readFile (files : FileSystem) (path : Path) : Except Trouble String :=
  match files.isThere path with
  | .error e => .error (.mishap (.file e))
  | .ok false => .error (.failure (.rulesMissing path))
  | .ok true =>
    match files.readText path with
    | .ok text => .ok text
    | .error (.encoding fault) => .error (.failure (.rulesNotText path fault.message))
    | .error .nullInPath => .error (.mishap (.file .nullInPath))
    | .error e => .error (.failure (.rulesUnreadable path e.text))

/-- The rules in a file. -/
def load (files : FileSystem) (path : Path) : Except Trouble RuleSet := do
  RuleSet.parse path.name (← readFile files path)

end RuleSet

end ManifestPolicy
