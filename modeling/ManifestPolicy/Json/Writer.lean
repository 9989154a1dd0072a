import ManifestPolicy.Json.Basic
import ManifestPolicy.Number.Integer
import ManifestPolicy.Number.Shortest

/-!
# Writing JSON

A value is written on one line, or with each item on a line of its own behind an indent. Controls,
quotes and backslashes of a string are escaped; every other character is kept as it stands, or
escaped as well if it is not ASCII. The shortest text of a number is used.

`display` is the other form that a value takes in messages: strings between single quotes and
the names `None`, `True` and `False`.

No limit is set to how deep values are nested.
-/

namespace ManifestPolicy

open Text

namespace Json

/-- The escape of a code. -/
def codeEscape (n : Nat) : List Char := '\\' :: 'u' :: (Utf8.hexPadded 4 n).toList

/-- A character of a string between the quotes. -/
def escapedChar (c : Char) : List Char :=
  if c = '"' then ['\\', '"']
  else if c = '\\' then ['\\', '\\']
  else if c = '\n' then ['\\', 'n']
  else if c = '\r' then ['\\', 'r']
  else if c = '\t' then ['\\', 't']
  else if c = '\x08' then ['\\', 'b']
  else if c = '\x0c' then ['\\', 'f']
  else if c.toNat < 0x20 then codeEscape c.toNat
  else [c]

/-- A character of a string between the quotes, in ASCII. The codes in escapes have sixteen bits:
a character beyond them is escaped as a pair of surrogates. What stands for half such a pair is
not meant. -/
def asciiChar (c : Char) : List Char :=
  if c.toNat < 0x7f then escapedChar c
  else if c.toNat < 0x10000 then codeEscape c.toNat
  else
    let n := c.toNat - 0x10000
    codeEscape (0xd800 + n / 0x400) ++ codeEscape (0xdc00 + n % 0x400)

/-- The characters of a string with its quotes, each of them spelled in the given way. -/
def quotedBy (spell : Char → List Char) (s : String) : List Char :=
  '"' :: (s.toList.flatMap spell ++ ['"'])

/-- The characters of a string with its quotes. -/
def quotedString (s : String) : List Char := quotedBy escapedChar s

/-- A way to write values. -/
structure Style where
  /-- The text of a character between quotes. -/
  spell : Char → List Char
  /-- What separates brackets from the items between them, at the depth of what comes next. -/
  edge : Nat → List Char
  /-- What stands behind a comma, at the depth of the items. -/
  gap : Nat → List Char

/-- A value without items. -/
def writeAtom (st : Style) : Json → Except Integer.Fault (List Char)
  | .null => .ok "null".toList
  | .bool b => .ok (if b then "true" else "false").toList
  | .int n => (Integer.write n).map String.toList
  | .float x => .ok (x.write Shortest.json).toList
  | .str s => .ok (quotedBy st.spell s)
  | .arr _ => .ok "[]".toList
  | .obj _ => .ok "{}".toList

mutual

/-- The value, at the depth of its first line. -/
def writeIn (st : Style) (depth : Nat) : Json → Except Integer.Fault (List Char)
  | .arr (v :: vs) => do
    let body ← itemsIn st (depth + 1) (v :: vs)
    return '[' :: (st.edge (depth + 1) ++ (body ++ (st.edge depth ++ [']'])))
  | .obj (m :: ms) => do
    let body ← membersIn st (depth + 1) (m :: ms)
    return '{' :: (st.edge (depth + 1) ++ (body ++ (st.edge depth ++ ['}'])))
  | v => writeAtom st v

/-- The items of an array. -/
def itemsIn (st : Style) (depth : Nat) : List Json → Except Integer.Fault (List Char)
  | [] => return []
  | [v] => writeIn st depth v
  | v :: vs => do
    let head ← writeIn st depth v
    let tail ← itemsIn st depth vs
    return head ++ (',' :: (st.gap depth ++ tail))

/-- The members of an object. -/
def membersIn (st : Style) (depth : Nat) : List (String × Json) → Except Integer.Fault (List Char)
  | [] => return []
  | [(name, v)] => do
    let text ← writeIn st depth v
    return quotedBy st.spell name ++ (':' :: ' ' :: text)
  | (name, v) :: ms => do
    let text ← writeIn st depth v
    let tail ← membersIn st depth ms
    return quotedBy st.spell name ++ (':' :: ' ' :: text) ++ (',' :: (st.gap depth ++ tail))

end

/-- A new line with an indent of two blanks for each level. -/
def newLine (depth : Nat) : List Char := '\n' :: List.replicate (2 * depth) ' '

/-- Each item on its own line. -/
def Style.indented : Style := ⟨escapedChar, newLine, newLine⟩

/-- One line of ASCII. -/
def Style.ascii : Style := ⟨asciiChar, fun _ => [], fun _ => [' ']⟩

/-- The value with each item on its own line. -/
def pretty (v : Json) : Except Integer.Fault String :=
  (writeIn .indented 0 v).map String.ofList

/-- The value on one line of ASCII. -/
def ascii (v : Json) : Except Integer.Fault String :=
  (writeIn .ascii 0 v).map String.ofList

example : (ascii (.arr [.str "\t😄", .null])).toOption = some "[\"\\t\\ud83d\\ude04\", null]" := by
  decide +kernel

mutual

/-- The value inside a collection, as messages show it. -/
def displayInner : Json → Except Integer.Fault (List Char)
  | .null => .ok "None".toList
  | .bool b => .ok (if b then "True" else "False").toList
  | .int n => (Integer.write n).map String.toList
  | .float x => .ok (x.write Shortest.plain).toList
  | .str s => .ok (quotedChars s.toList)
  | .arr items => do
    let body ← displayItems items
    return '[' :: (body ++ [']'])
  | .obj members => do
    let body ← displayMembers members
    return '{' :: (body ++ ['}'])

/-- The items of an array, separated by commas. -/
def displayItems : List Json → Except Integer.Fault (List Char)
  | [] => return []
  | [v] => displayInner v
  | v :: vs => do
    let head ← displayInner v
    let tail ← displayItems vs
    return head ++ (',' :: ' ' :: tail)

/-- The members of an object, separated by commas. -/
def displayMembers : List (String × Json) → Except Integer.Fault (List Char)
  | [] => return []
  | [(name, v)] => do
    let text ← displayInner v
    return quotedChars name.toList ++ (':' :: ' ' :: text)
  | (name, v) :: ms => do
    let text ← displayInner v
    let tail ← displayMembers ms
    return quotedChars name.toList ++ (':' :: ' ' :: text) ++ (',' :: ' ' :: tail)

end

/-- The value as messages show it: a string stands for itself. -/
def display : Json → Except Integer.Fault String
  | .str s => .ok s
  | v => (displayInner v).map String.ofList

example : (display (.arr [.null, .str "x"])).toOption = some "[None, 'x']" := by decide

end Json

end ManifestPolicy
