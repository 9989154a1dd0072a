import ManifestPolicy.Number.Binary64

/-!
# JSON values

A JSON document as a tree. The members of an object keep their order, and integers are kept
apart from numbers with a fraction or an exponent.
-/

namespace ManifestPolicy

/-- A JSON value. -/
inductive Json where
  | null
  | bool (b : Bool)
  | int (n : Int)
  | float (x : Binary64)
  | str (s : String)
  | arr (items : List Json)
  | obj (members : List (String × Json))
deriving Repr, BEq, Inhabited

namespace Json

/-- Sets a member: a name that is there already keeps its place and takes the new value. -/
def put {α : Type} (name : String) (v : α) : List (String × α) → List (String × α)
  | [] => [(name, v)]
  | (n, w) :: rest => if n = name then (n, v) :: rest else (n, w) :: put name v rest

/-- The value of a member. -/
def member? (name : String) (members : List (String × Json)) : Option Json :=
  (members.find? fun m => m.1 = name).map (·.2)

/-- Whether a value counts as nothing: null, false, zero, and what is empty. -/
def isVoid : Json → Bool
  | .null => true
  | .bool b => !b
  | .int n => n = 0
  | .float x => x.eqv .zero
  | .str s => s.isEmpty
  | .arr items => items.isEmpty
  | .obj members => members.isEmpty

end Json

end ManifestPolicy
