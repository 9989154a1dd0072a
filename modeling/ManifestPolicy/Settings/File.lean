import ManifestPolicy.FileSystem
import ManifestPolicy.Settings.Document

/-!
# Settings files

The settings of a workspace are in a file of a fixed name in its directory, or in the nearest
directory above it that has one. Without such a file, or if the file that was asked for is not
there, all choices have their defaults.
-/

namespace ManifestPolicy.Settings

/-- The name of a settings file. -/
def fileName : String := ".kubepolicy.json"

/-- Why settings could not be loaded. -/
inductive LoadFault where
  /-- The file does not hold settings. -/
  | invalid (path : Path) (fault : Fault)
  /-- The file could not be read. -/
  | unreadable (path : Path) (error : FileError)
  /-- It could not be found out whether there is a file. -/
  | unreachable (error : FileError)
deriving Repr, DecidableEq

/-- The wording of a fault. -/
def LoadFault.text : LoadFault → String
  | .invalid path fault =>
    match fault with
    | .json (.syntaxAt ..) => s!"Invalid JSON in config file {path.text}: {fault.text}"
    | _ => s!"Failed to load config from {path.text}: {fault.text}"
  | .unreadable path error => s!"Failed to load config from {path.text}: {error.text}"
  | .unreachable error => error.text

/-- The nearest settings file of a directory, from the directory upwards, given the directory's
names with the innermost first. -/
def findAbove (files : FileSystem) : List String → Except FileError (Option Path)
  | [] => do
    let file := Path.ofLocation [fileName]
    return if ← files.isThere file then some file else none
  | name :: above => do
    let file := Path.ofLocation ((name :: above).reverse ++ [fileName])
    if ← files.isThere file then return some file else findAbove files above

/-- The settings file that a search from a directory finds. -/
def find (files : FileSystem) (start : Path) : Except FileError (Option Path) := do
  findAbove files (← files.resolve start).reverse

/-- The settings in a file, or the defaults if it is not there. -/
def loadFile (files : FileSystem) (path : Path) : Except LoadFault Settings :=
  match files.isThere path with
  | .error e => .error (.unreachable e)
  | .ok false => .ok {}
  | .ok true =>
    match files.readText path with
    | .error e => .error (.unreadable path e)
    | .ok text =>
      match read text with
      | .ok s => .ok s
      | .error fault => .error (.invalid path fault)

/-- The settings in the file that is asked for, or else in the one that a search finds. -/
def load (files : FileSystem) (path : Option Path) (start : Path) : Except LoadFault Settings :=
  match path with
  | some path => loadFile files path
  | none =>
    match find files start with
    | .error e => .error (.unreachable e)
    | .ok none => .ok {}
    | .ok (some path) => loadFile files path

end ManifestPolicy.Settings
