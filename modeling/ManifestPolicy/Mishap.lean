import ManifestPolicy.Console.Markup
import ManifestPolicy.Failure
import ManifestPolicy.FileSystem
import ManifestPolicy.Tool.Output
import ManifestPolicy.Value.Literal
import ManifestPolicy.Yaml.Fault

/-!
# Mishaps

Beside the failures that a validation is prepared for there are mishaps that it is not: a scalar
of a document or a value of a condition that cannot be dealt with, an output of an odd form, a
file that cannot be reached, or a tool that breaks down in its own way. A run ends with them too,
but they have no kind of their own.
-/

namespace ManifestPolicy

/-- The ways in which a tool may break down by itself. -/
inductive Breakdown where
  | runtime
  | value
  | key
deriving Repr, DecidableEq

/-- What nothing was prepared for. -/
inductive Mishap where
  | scalar (fault : Yaml.ScalarFault)
  | literal (fault : Literal.Fault)
  /-- A mapping whose entries were to be taken as named arguments has a key that is no string. -/
  | argumentNames
  | output (fault : Output.Fault)
  /-- A file could not be dealt with where that is not expected. -/
  | file (error : FileError)
  | breakdown (how : Breakdown) (text : String)
  /-- A closing tag in printed text that closes nothing. -/
  | markup (fault : Markup.Fault)
deriving Repr, DecidableEq

/-- The wording of a mishap. -/
def Mishap.text : Mishap → String
  | .scalar f => f.message
  | .literal f => f.message
  | .argumentNames => "keywords must be strings"
  | .output f => f.message
  | .file e => e.text
  | .breakdown .key text => Text.quoted text
  | .breakdown _ text => text
  | .markup f => f.message

/-- Why something was not done. -/
inductive Trouble where
  | failure (f : Failure)
  | mishap (m : Mishap)
deriving Repr, DecidableEq

/-- Whether it is the system that refuses. -/
def FileError.isOfSystem : FileError → Bool
  | .system .. | .stranded | .tooLarge => true
  | .nullInPath | .encoding _ | .unencodable _ => false

/-- The trouble with a file where it is expected that the system refuses, and nothing else. -/
def FileError.expected (message : String) (e : FileError) : Trouble :=
  if e.isOfSystem then .failure ⟨.io, message, some e.text⟩ else .mishap (.file e)

/-- The wording of a trouble. -/
def Trouble.text : Trouble → String
  | .failure f => f.text
  | .mishap m => m.text

end ManifestPolicy
