import ManifestPolicy.CommandLine.Arguments
import ManifestPolicy.Validation.Request

/-!
# Commands

What can be asked for on the command line. Arguments that make no command are a mistake in usage.
-/

namespace ManifestPolicy

/-- Where a command finds its workspace and its settings. -/
structure Place where
  workspace : Path
  settings : Option Path
deriving Repr, DecidableEq

/-- A command. -/
inductive Command where
  | version
  | help
  | validate (document : Path) (place : Place) (form : String) (render : Bool) (trigger : Trigger)
      (logLevel : Option String)
  | compile (place : Place) (out : Option Path) (toScreen : Bool)
  | detect (document : Path)
  | sanitize (document : Path) (settings : Option Path) (check : Bool)
  | schema (out : Path)
deriving Repr, DecidableEq

namespace Command

open Arguments

/-- The option that every command has. -/
def helpOption : Known := { name := "help" }

/-- The options before the name of a command. -/
def commonOptions : List Known := [{ name := "version", letter := some 'v' }, helpOption]

/-- The option that names the workspace. -/
def workspaceOption : Known := ⟨"workspace", some 'w', true⟩

/-- The option that names the settings file. -/
def settingsOption : Known := ⟨"config", some 'c', true⟩

/-- The option that names where to write. -/
def outOption : Known := ⟨"out", some 'o', true⟩

/-- The options of a command with a name. -/
def optionsOf : String → List Known
  | "validate" =>
    [workspaceOption, settingsOption, ⟨"format", some 'f', true⟩, { name := "no-render" },
      ⟨"trigger", none, true⟩, ⟨"log-level", some 'l', true⟩, helpOption]
  | "compile" => [workspaceOption, settingsOption, outOption, { name := "stdout" }, helpOption]
  | "sanitize" => [settingsOption, { name := "check" }, helpOption]
  | "schema" => [outOption, helpOption]
  | _ => [helpOption]

/-- The path that an option gives. -/
def path? (g : Given) (name : String) : Option Path := (g.value? name).map Path.ofString

/-- The place that options give; the workspace is the present directory if none is named. -/
def place (g : Given) : Place := ⟨(path? g "workspace").getD (Path.ofString "."), path? g "config"⟩

/-- The trigger that an option gives. -/
def trigger? (g : Given) : Option Trigger :=
  match g.value? "trigger" with
  | none => some .manual
  | some name => Trigger.ofName? name

/-- The command with a name and what was given to it. -/
def ofGiven (name : String) (g : Given) : Option Command :=
  match name, g.operands with
  | "validate", [document] => do
    let trigger ← trigger? g
    return .validate (Path.ofString document) (place g) ((g.value? "format").getD "table")
      (!g.has "no-render") trigger (g.value? "log-level")
  | "compile", [] => some (.compile (place g) (path? g "out") (g.has "stdout"))
  | "detect", [document] => some (.detect (Path.ofString document))
  | "sanitize", [document] =>
    some (.sanitize (Path.ofString document) (path? g "config") (g.has "check"))
  | "schema", [] => some (.schema ((path? g "out").getD (Path.ofString "schemas")))
  | _, _ => none

/-- The names of commands. -/
def names : List String := ["validate", "compile", "detect", "sanitize", "schema"]

/-- The command that arguments make, if they make one. -/
def read (args : List String) : Option Command := do
  let common ← Arguments.read commonOptions false args
  if common.has "help" then return .help
  if common.has "version" then return .version
  match common.operands with
  | [] => none
  | name :: rest =>
    if names.contains name then
      let g ← Arguments.read (optionsOf name) true rest
      if g.has "help" then return .help else ofGiven name g
    else none

/-- The paths of a command. -/
def paths : Command → List Path
  | .version => []
  | .help => []
  | .validate document place _ _ _ _ => document :: place.workspace :: place.settings.toList
  | .compile place out _ => place.workspace :: (place.settings.toList ++ out.toList)
  | .detect document => [document]
  | .sanitize document settings _ => document :: settings.toList
  | .schema out => [out]

end Command

end ManifestPolicy
