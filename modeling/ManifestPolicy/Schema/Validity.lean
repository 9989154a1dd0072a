import ManifestPolicy.Json.Writer
import ManifestPolicy.Schema.Pattern

/-!
# Validity under a schema

A JSON schema is itself a JSON value. An object is a list of keywords, each of which asks something
of the value under it; `true` asks nothing and `false` refuses everything. What a keyword asks is
only asked of values of the type that it is about. References lead to the schema as a whole or to
one of its definitions.
-/

namespace ManifestPolicy.Schema

/-- What a schema can object to. -/
inductive Fault where
  | refused (v : Json)
  | wrongType (v : Json) (types : List String)
  | noAlternative (v : Json)
  | missing (name : String)
  | notListed (v : Json) (choices : List Json)
  | below (v least : Json)
  | notAbove (v bound : Json)
  | empty (v : Json)
  | repeated (v : Json)
  | mismatch (v : Json) (pattern : String)
  | badFormat (v : Json) (format : String)
  | extra (names : List String)
deriving Repr, BEq

/-- A value as faults show it. -/
def shown (v : Json) : String := String.ofList ((Json.displayInner v).toOption.getD [])

/-- The wording of a fault. -/
def Fault.message : Fault → String
  | .refused v => s!"False schema does not allow {shown v}"
  | .wrongType v types =>
    s!"{shown v} is not of type " ++ ", ".intercalate (types.map Text.quoted)
  | .noAlternative v => s!"{shown v} is not valid under any of the given schemas"
  | .missing name => Text.quoted name ++ " is a required property"
  | .notListed v choices => s!"{shown v} is not one of " ++ shown (.arr choices)
  | .below v least => s!"{shown v} is less than the minimum of {shown least}"
  | .notAbove v bound => s!"{shown v} is less than or equal to the minimum of {shown bound}"
  | .empty v => s!"{shown v} should be non-empty"
  | .repeated v => s!"{shown v} has non-unique elements"
  | .mismatch v pattern => s!"{shown v} does not match " ++ Text.quoted pattern
  | .badFormat v format => s!"{shown v} is not a " ++ Text.quoted format
  | .extra names =>
    "Additional properties are not allowed (" ++ ", ".intercalate (names.map Text.quoted) ++ " "
      ++ (if names.length = 1 then "was" else "were") ++ " unexpected)"

/-- Whether a value has the type of a name. A number without a fraction is an integer. -/
def hasType (v : Json) (type : String) : Bool :=
  match v with
  | .null => type = "null"
  | .bool _ => type = "boolean"
  | .int _ => type = "integer" || type = "number"
  | .float x => type = "number" || (type = "integer" && x.toInt?.isSome)
  | .str _ => type = "string"
  | .arr _ => type = "array"
  | .obj _ => type = "object"

/-- A number. -/
def number? : Json → Option Binary64
  | .int n => some (.ofInt n)
  | .float x => some x
  | _ => none

/-- Whether two values are equal; numbers are compared as numbers. -/
def same (v w : Json) : Bool :=
  match number? v, number? w with
  | some x, some y => x.eqv y
  | _, _ => v == w

/-- Whether some value of a list occurs again in it. -/
def anyRepeated : List Json → Bool
  | [] => false
  | v :: vs => vs.any (same v) || anyRepeated vs

/-- The strings of a list. -/
def strings (vs : List Json) : List String :=
  vs.filterMap fun v => match v with
    | .str s => some s
    | _ => none

/-- The part of a schema that a reference leads to. -/
def resolve (root : Json) (reference : String) : Option Json :=
  if reference = "#" then some root
  else
    match root with
    | .obj members =>
      match Json.member? "$defs" members with
      | some (.obj defs) => Json.member? (String.ofList (reference.toList.drop 8)) defs
      | _ => none
    | _ => none

/-- The members of a keyword's value that is an object. -/
def membersOf (name : String) (keywords : List (String × Json)) : List (String × Json) :=
  match Json.member? name keywords with
  | some (.obj ms) => ms
  | _ => []

/-- What a keyword objects to in an object. -/
def objectFaults (check : Json → Json → List Fault) (keywords : List (String × Json))
    (name : String) (arg : Json) (members : List (String × Json)) : List Fault :=
  match name, arg with
  | "properties", .obj ps =>
    ps.flatMap fun (n, s) => match Json.member? n members with
      | some w => check s w
      | none => []
  | "required", .arr names =>
    ((strings names).filter fun n => (Json.member? n members).isNone).map .missing
  | "additionalProperties", s =>
    let extra := members.filter fun m => (Json.member? m.1 (membersOf "properties" keywords)).isNone
    match s with
    | .bool true => []
    | .bool false => if extra.isEmpty then [] else [.extra (extra.map (·.1))]
    | s => extra.flatMap fun m => check s m.2
  | "propertyNames", s => members.flatMap fun m => check s (.str m.1)
  | _, _ => []

/-- What a keyword objects to in an array. -/
def arrayFaults (check : Json → Json → List Fault) (name : String) (arg : Json)
    (items : List Json) : List Fault :=
  match name, arg with
  | "items", s => items.flatMap (check s)
  | "minItems", .int n => if n = 1 ∧ items.isEmpty then [.empty (.arr items)] else []
  | "uniqueItems", .bool true => if anyRepeated items then [.repeated (.arr items)] else []
  | _, _ => []

/-- What a keyword objects to in a string. -/
def stringFaults (name : String) (arg : Json) (s : String) : List Fault :=
  match name, arg with
  | "pattern", .str p => if Pattern.fits p s then [] else [.mismatch (.str s) p]
  | "format", .str f => if Pattern.hasFormat f s then [] else [.badFormat (.str s) f]
  | _, _ => []

/-- What a keyword objects to in a number. -/
def numberFaults (name : String) (arg v : Json) : List Fault :=
  match number? arg, number? v with
  | some bound, some x =>
    if name = "minimum" ∧ x.lt bound then [.below v arg]
    else if name = "exclusiveMinimum" ∧ x.le bound then [.notAbove v arg]
    else []
  | _, _ => []

/-- What a keyword objects to in a value of any type. -/
def commonFaults (check : Json → Json → List Fault) (root : Json) (name : String) (arg v : Json) :
    List Fault :=
  match name, arg with
  | "$ref", .str r =>
    match resolve root r with
    | some s => check s v
    | none => []
  | "type", .str t => if hasType v t then [] else [.wrongType v [t]]
  | "type", .arr ts => if (strings ts).any (hasType v) then [] else [.wrongType v (strings ts)]
  | "enum", .arr vs => if vs.any (same v) then [] else [.notListed v vs]
  | "allOf", .arr ss => ss.flatMap fun s => check s v
  | "anyOf", .arr ss => if ss.any fun s => (check s v).isEmpty then [] else [.noAlternative v]
  | _, _ => []

/-- What a keyword objects to. -/
def keywordFaults (check : Json → Json → List Fault) (root : Json)
    (keywords : List (String × Json)) (name : String) (arg v : Json) : List Fault :=
  commonFaults check root name arg v ++
    match v with
    | .obj members => objectFaults check keywords name arg members
    | .arr items => arrayFaults check name arg items
    | .str s => stringFaults name arg s
    | v => numberFaults name arg v

/-- What a part of a schema objects to, with fuel for each step into the schema or the value. -/
def faultsWithin (root : Json) : Nat → Json → Json → List Fault
  | 0, _, _ => []
  | fuel + 1, schema, v =>
    match schema with
    | .bool false => [.refused v]
    | .obj keywords =>
      keywords.flatMap fun k => keywordFaults (faultsWithin root fuel) root keywords k.1 k.2 v
    | _ => []

mutual

/-- The number of values in a value, itself included. -/
def size : Json → Nat
  | .arr items => sizeItems items + 1
  | .obj members => sizeMembers members + 1
  | _ => 1

/-- The number of values in some values. -/
def sizeItems : List Json → Nat
  | [] => 0
  | v :: vs => size v + sizeItems vs

/-- The number of values in some members. -/
def sizeMembers : List (String × Json) → Nat
  | [] => 0
  | (_, v) :: ms => size v + sizeMembers ms

end

/-- What a schema objects to in a value, in the order of its keywords. -/
def faults (schema v : Json) : List Fault := faultsWithin schema (size schema * size v) schema v

/-- Whether a value is valid under a schema. -/
def isValid (schema v : Json) : Bool := (faults schema v).isEmpty

end ManifestPolicy.Schema
