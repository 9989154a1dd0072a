import ManifestPolicy.Calendar
import ManifestPolicy.Json.Basic

/-!
# Data trees

The values that documents hold. A tree is what a reader of YAML or JSON builds: scalars with
their types, sequences, and mappings from keys to values in the order in which the keys came. A
container that occurs inside itself is cut there by a mark.
-/

namespace ManifestPolicy

/-- A value of a document. -/
inductive Value where
  | null
  | bool (b : Bool)
  | int (n : Int)
  | float (x : Binary64)
  | str (s : String)
  | bytes (bs : List UInt8)
  | date (d : Date)
  | time (t : DateTime)
  | list (items : List Value)
  | tuple (items : List Value)
  | set (items : List Value)
  | map (entries : List (Value × Value))
  /-- A container that encloses this place occurs here again. -/
  | cycle
deriving Repr, BEq, Inhabited

namespace Value

/-- The name of a value's type, as messages give it. -/
def typeName : Value → String
  | .null => "NoneType"
  | .bool _ => "bool"
  | .int _ => "int"
  | .float _ => "float"
  | .str _ => "str"
  | .bytes _ => "bytes"
  | .date _ => "date"
  | .time _ => "datetime"
  | .list _ => "list"
  | .tuple _ => "tuple"
  | .set _ => "set"
  | .map _ => "dict"
  | .cycle => "object"

/-- The entry under a string key. -/
def entry? (key : String) (entries : List (Value × Value)) : Option Value :=
  (entries.find? fun e => match e.1 with
    | .str s => s = key
    | _ => false).map (·.2)

mutual

/-- Whether some container of the value occurs inside itself. -/
def isCyclic : Value → Bool
  | .cycle => true
  | .list items => anyCyclic items
  | .tuple items => anyCyclic items
  | .set items => anyCyclic items
  | .map entries => anyCyclicEntry entries
  | _ => false

/-- Whether one of the values is cyclic. -/
def anyCyclic : List Value → Bool
  | [] => false
  | v :: vs => v.isCyclic || anyCyclic vs

/-- Whether one of the entries is cyclic. -/
def anyCyclicEntry : List (Value × Value) → Bool
  | [] => false
  | (k, v) :: es => k.isCyclic || v.isCyclic || anyCyclicEntry es

end

end Value

mutual

/-- A JSON value as a value of a document. -/
def Json.toValue : Json → Value
  | .null => .null
  | .bool b => .bool b
  | .int n => .int n
  | .float x => .float x
  | .str s => .str s
  | .arr items => .list (Json.toValues items)
  | .obj members => .map (Json.toEntries members)

/-- The items of an array as values. -/
def Json.toValues : List Json → List Value
  | [] => []
  | v :: vs => v.toValue :: Json.toValues vs

/-- The members of an object as entries under string keys. -/
def Json.toEntries : List (String × Json) → List (Value × Value)
  | [] => []
  | (name, v) :: ms => (.str name, v.toValue) :: Json.toEntries ms

end

end ManifestPolicy
