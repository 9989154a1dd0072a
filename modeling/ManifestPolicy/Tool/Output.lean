import ManifestPolicy.Json.Reader
import ManifestPolicy.Json.Writer

/-!
# What the evaluator prints

The evaluator answers a query for the reasons of denial. Its output is a JSON list of reasons, or
a JSON report of results whose expressions hold such lists, or text. Two readers look at it: one
asks whether there is any reason, the other lists them. No limit is set to how deep an output is
nested.
-/

namespace ManifestPolicy.Output

open Text

/-- Why a reader gives up on an output. -/
inductive Fault where
  /-- A value of this type was to be gone through. -/
  | notIterable (typeName : String)
  /-- A value of this type was to have members. -/
  | noMembers (typeName : String)
  | integer (fault : Integer.Fault)
deriving Repr, DecidableEq

/-- The wording of a fault. -/
def Fault.message : Fault → String
  | .notIterable t => s!"'{t}' object is not iterable"
  | .noMembers t => s!"'{t}' object has no attribute 'get'"
  | .integer f => f.message

/-- The name of a value's type, as messages give it. -/
def typeName : Json → String
  | .null => "NoneType"
  | .bool _ => "bool"
  | .int _ => "int"
  | .float _ => "float"
  | .str _ => "str"
  | .arr _ => "list"
  | .obj _ => "dict"

/-- The values that going through a value meets: the items of a list, the names of an object's
members, the characters of a string. -/
def iterate : Json → Except Fault (List Json)
  | .arr items => .ok items
  | .obj members => .ok (members.map fun m => .str m.1)
  | .str s => .ok (s.toList.map fun c => .str (String.ofList [c]))
  | v => .error (.notIterable (typeName v))

/-- The value of a member, or a default. -/
def memberOr (name : String) (dflt : Json) : Json → Except Fault Json
  | .obj members => .ok ((Json.member? name members).getD dflt)
  | v => .error (.noMembers (typeName v))

/-- The results of a report: nothing counts as an empty list. -/
def results (members : List (String × Json)) : Except Fault (List Json) :=
  let r := (Json.member? "result" members).getD .null
  iterate (if r.isVoid then .arr [] else r)

/-- The expressions of a result. -/
def expressions (result : Json) : Except Fault (List Json) := do
  iterate (← memberOr "expressions" (.arr []) result)

/-- Whether every one of the expressions has a void value; the first that has not decides. -/
def allVoid : List Json → Except Fault Bool
  | [] => .ok true
  | e :: es => do
    let v ← memberOr "value" .null e
    if v.isVoid then allVoid es else return false

/-- Whether every expression of the results has a void value. -/
def allResultsVoid : List Json → Except Fault Bool
  | [] => .ok true
  | r :: rs => do
    if ← allVoid (← expressions r) then allResultsVoid rs else return false

/-- The members that a report may have. -/
def reportMembers : List String := ["result", "metrics", "profile", "explanation"]

/-- Whether the output names no reason: it is blank, an empty value, or a report without a value.
Text that is not JSON names one. -/
def isEmpty (output : String) : Except Fault Bool :=
  let text := strip output.toList
  if text.isEmpty then .ok true
  else
    match Json.read (String.ofList text) with
    | .error _ => .ok false
    | .ok .null => .ok true
    | .ok (.arr []) => .ok true
    | .ok (.obj members) =>
      if members.all fun m => reportMembers.contains m.1 then do
        allResultsVoid (← results members)
      else .ok false
    | .ok _ => .ok false

/-- The values of the expressions of the results, in order. -/
def values (members : List (String × Json)) : Except Fault (List Json) := do
  let vs ← (← results members).mapM fun r => do
    (← expressions r).mapM (memberOr "value" .null)
  return vs.flatten

/-- The items of a value that is a list. -/
def listItems : Json → List Json
  | .arr items => items
  | _ => []

/-- A reason as text. -/
def reason (v : Json) : Except Fault String :=
  match v.display with
  | .ok s => .ok s
  | .error f => .error (.integer f)

/-- The reasons that the output names: the items of a list or of the lists of a report, one value
that is neither, or the lines of a text that are not blank. -/
def reasons (output : String) : Except Fault (List String) :=
  match Json.read output with
  | .error _ => .ok ((lines output).filter fun l => !(strip l.toList).isEmpty)
  | .ok (.obj members) => do
    let vs ← values members
    (vs.flatMap listItems).mapM reason
  | .ok (.arr items) => items.mapM reason
  | .ok v => do return [← reason v]

end ManifestPolicy.Output
