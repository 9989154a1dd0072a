import ManifestPolicy.Json.Writer
import ManifestPolicy.Value.Basic

/-!
# Literals

A value is written into a policy as JSON on one line, with a blank after each comma and colon.
A key that is no string is written as the text of its scalar. Dates, bytes and sets have no
literal, nor has a container that occurs inside itself. No limit is set to how deep values are
nested.
-/

namespace ManifestPolicy

namespace Literal

open Json (quotedString)

/-- Why a value has no literal. -/
inductive Fault where
  | key (typeName : String)
  | value (typeName : String)
  | cycle
  | integer (fault : Integer.Fault)
deriving Repr, DecidableEq

/-- The wording of a fault. -/
def Fault.message : Fault → String
  | .key t => s!"keys must be str, int, float, bool or None, not {t}"
  | .value t => s!"Object of type {t} is not JSON serializable"
  | .cycle => "Circular reference detected"
  | .integer f => f.message

/-- The type of a key as the message about it names it: dates are named with their module. -/
def keyTypeName : Value → String
  | .date _ => "datetime.date"
  | .time _ => "datetime.datetime"
  | v => v.typeName

/-- The decimal text of an integer. -/
def integer (n : Int) : Except Fault (List Char) :=
  match Integer.write n with
  | .ok s => .ok s.toList
  | .error f => .error (.integer f)

/-- A key, which is always written as a string. -/
def key : Value → Except Fault (List Char)
  | .null => .ok "\"null\"".toList
  | .bool b => .ok (if b then "\"true\"" else "\"false\"").toList
  | .int n => do
    let digits ← integer n
    return '"' :: (digits ++ ['"'])
  | .float x => .ok ('"' :: ((x.write Shortest.json).toList ++ ['"']))
  | .str s => .ok (quotedString s)
  | v => .error (.key (keyTypeName v))

mutual

/-- The literal of a value. -/
def encode : Value → Except Fault (List Char)
  | .null => .ok "null".toList
  | .bool b => .ok (if b then "true" else "false").toList
  | .int n => integer n
  | .float x => .ok (x.write Shortest.json).toList
  | .str s => .ok (quotedString s)
  | .list items => do
    let body ← encodeItems items
    return '[' :: (body ++ [']'])
  | .tuple items => do
    let body ← encodeItems items
    return '[' :: (body ++ [']'])
  | .map entries => do
    let body ← encodeEntries entries
    return '{' :: (body ++ ['}'])
  | .cycle => .error .cycle
  | v => .error (.value v.typeName)

/-- Items separated by a comma and a blank. -/
def encodeItems : List Value → Except Fault (List Char)
  | [] => return []
  | [v] => encode v
  | v :: vs => do
    let head ← encode v
    let tail ← encodeItems vs
    return head ++ (',' :: ' ' :: tail)

/-- Entries separated by a comma and a blank. -/
def encodeEntries : List (Value × Value) → Except Fault (List Char)
  | [] => return []
  | [(k, v)] => do
    let name ← key k
    let text ← encode v
    return name ++ (':' :: ' ' :: text)
  | (k, v) :: es => do
    let name ← key k
    let text ← encode v
    let tail ← encodeEntries es
    return name ++ (':' :: ' ' :: text) ++ (',' :: ' ' :: tail)

end

/-- The literal of a value as a string. -/
def write (v : Value) : Except Fault String := (encode v).map String.ofList

example : (write (.list [.int 1, .str "a\n"])).toOption = some "[1, \"a\\n\"]" := by decide

end Literal

end ManifestPolicy
