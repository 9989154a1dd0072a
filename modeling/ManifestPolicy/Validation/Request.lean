import ManifestPolicy.FileSystem

/-!
# Requests

A request asks for the validation of one document in a workspace.
-/

namespace ManifestPolicy

/-- What started a validation. -/
inductive Trigger where
  | manual
  | save
deriving Repr, DecidableEq

/-- The name of a trigger. -/
def Trigger.name : Trigger → String
  | .manual => "manual"
  | .save => "save"

/-- The triggers in order. -/
def Trigger.all : List Trigger := [.manual, .save]

/-- The trigger with the name. -/
def Trigger.ofName? (name : String) : Option Trigger := all.find? fun t => t.name = name

/-- What to say of a name that no trigger has. -/
def Trigger.unknown (name : String) : String := Text.quoted name ++ " is not a valid TriggerKind"

/-- A request. Whether the document is a template is found out if it is not said. -/
structure Request where
  document : Path
  workspace : Path
  isTemplate : Option Bool := none
  trigger : Trigger := .manual
deriving Repr, DecidableEq

/-- The request with both paths resolved; the workspace is the present directory unless another
is named. -/
def Request.resolved (files : FileSystem) (document : Path) (workspace : Option Path)
    (trigger : Trigger) (isTemplate : Option Bool) : Except FileError Request := do
  let document ← files.resolve document
  let workspace ← files.resolve (workspace.getD ⟨.none, []⟩)
  return ⟨Path.ofLocation document, Path.ofLocation workspace, isTemplate, trigger⟩

end ManifestPolicy
