import ManifestPolicy.Json.Basic
import ManifestPolicy.Number.Integer
import ManifestPolicy.Number.Decimal

/-!
# Reading JSON

The reader takes one JSON value with blanks around it. Beyond the standard it knows the names of
the infinities and of the value that is no number, and of two members with one name the last one
counts. A fault is reported with the place where it was met.

The functions consume a list of characters and return what is left of it; a place in the text is
then the difference of two lengths.

An escape may name half a pair of surrogates without the other half, which is kept. No limit is
set to how deep values are nested.
-/

namespace ManifestPolicy

open Text

namespace Json

/-- What the reader met. -/
inductive Complaint where
  | byteOrderMark
  | value
  | memberName
  | colon
  | comma
  | extra
  | unterminated
  | control
  | escapeChar
  | unicodeEscape
deriving Repr, DecidableEq

/-- The wording of a complaint. -/
def Complaint.text : Complaint → String
  | .byteOrderMark => "Unexpected UTF-8 BOM (decode using utf-8-sig)"
  | .value => "Expecting value"
  | .memberName => "Expecting property name enclosed in double quotes"
  | .colon => "Expecting ':' delimiter"
  | .comma => "Expecting ',' delimiter"
  | .extra => "Extra data"
  | .unterminated => "Unterminated string starting at"
  | .control => "Invalid control character at"
  | .escapeChar => "Invalid \\escape"
  | .unicodeEscape => "Invalid \\uXXXX escape"

/-- Why a text is not read; a place is given by what is left of the text there. -/
inductive Stop where
  | complaint (what : Complaint) (rest : List Char)
  | integer (fault : Integer.Fault)

/-- The blanks of JSON. -/
def isSpace (c : Char) : Bool := c == ' ' || c == '\t' || c == '\n' || c == '\r'

/-- The text without the blanks at its front. -/
def skipSpace (cs : List Char) : List Char := cs.dropWhile isSpace

/-- The number that four hexadecimal digits write, and what follows them. -/
def hex4 : List Char → Option (Nat × List Char)
  | a :: b :: c :: d :: rest =>
    if isHexDigit a && isHexDigit b && isHexDigit c && isHexDigit d then
      some (ofDigits 16 [a, b, c, d], rest)
    else none
  | _ => none

/-- The character that a short escape stands for. -/
def shortEscape : Char → Option Char
  | '"' => some '"'
  | '\\' => some '\\'
  | '/' => some '/'
  | 'b' => some '\x08'
  | 'f' => some '\x0c'
  | 'n' => some '\n'
  | 'r' => some '\r'
  | 't' => some '\t'
  | _ => none

/-- Whether the number is the first half of a pair of surrogates. -/
def isHighSurrogate (n : Nat) : Bool := 0xd800 ≤ n && n < 0xdc00

/-- Whether the number is the second half of a pair of surrogates. -/
def isLowSurrogate (n : Nat) : Bool := 0xdc00 ≤ n && n < 0xe000

/-- The character that a number names, or that stands for it if it is half a pair of surrogates. -/
def scalarOf (n : Nat) : Char :=
  if isHighSurrogate n || isLowSurrogate n then Utf8.half n else Char.ofNat n

/-- The characters of a string up to its closing quote. The opening quote stood at `start`. -/
def chars (start : List Char) : Nat → List Char → Except Stop (List Char × List Char)
  | 0, _ => .error (.complaint .unterminated start)
  | _, [] => .error (.complaint .unterminated start)
  | fuel + 1, c :: rest =>
    if c = '"' then .ok ([], rest)
    else if c = '\\' then
      match rest with
      | [] => .error (.complaint .unterminated start)
      | 'u' :: more =>
        match hex4 more with
        | none => .error (.complaint .unicodeEscape rest)
        | some (_, []) => .error (.complaint .unicodeEscape rest)
        | some (n, after) =>
          match isHighSurrogate n, after with
          | true, '\\' :: 'u' :: low =>
            match hex4 low with
            | none => .error (.complaint .unicodeEscape ('u' :: low))
            | some (m, after') =>
              if isLowSurrogate m then do
                let (cs, left) ← chars start fuel after'
                .ok (Char.ofNat (0x10000 + (n - 0xd800) * 0x400 + (m - 0xdc00)) :: cs, left)
              else do
                let (cs, left) ← chars start fuel after
                .ok (scalarOf n :: cs, left)
          | _, _ => do
            let (cs, left) ← chars start fuel after
            .ok (scalarOf n :: cs, left)
      | e :: more =>
        match shortEscape e with
        | some ch => do
          let (cs, left) ← chars start fuel more
          .ok (ch :: cs, left)
        | none => .error (.complaint .escapeChar (c :: rest))
    else if c.toNat < 0x20 then .error (.complaint .control (c :: rest))
    else do
      let (cs, left) ← chars start fuel rest
      .ok (c :: cs, left)

/-- The string after an opening quote. -/
def string (start rest : List Char) : Except Stop (String × List Char) := do
  let (cs, left) ← chars start (rest.length + 1) rest
  return (String.ofList cs, left)

/-- The digits of a whole number: zero alone, or digits that begin with another one. -/
def wholeDigits : List Char → Option (List Char × List Char)
  | '0' :: rest => some (['0'], rest)
  | c :: rest =>
    if c.isDigit then some (c :: rest.takeWhile Char.isDigit, rest.dropWhile Char.isDigit)
    else none
  | [] => none

/-- The digits of a fraction, if a point and a digit follow. -/
def fractionDigits : List Char → List Char × List Char
  | '.' :: d :: rest =>
    if d.isDigit then (d :: rest.takeWhile Char.isDigit, rest.dropWhile Char.isDigit)
    else ([], '.' :: d :: rest)
  | cs => ([], cs)

/-- The exponent, if there is one with at least a digit. -/
def exponentPart (cs : List Char) : Option (Int × List Char) :=
  match cs with
  | c :: rest =>
    if c == 'e' || c == 'E' then
      let (negative, ds) := match rest with
        | '-' :: ds => (true, ds)
        | '+' :: ds => (false, ds)
        | ds => (false, ds)
      let digits := ds.takeWhile Char.isDigit
      if digits.isEmpty then none
      else
        let n : Int := ofDigits 10 digits
        some (if negative then -n else n, ds.dropWhile Char.isDigit)
    else none
  | [] => none

/-- Reads a number; `cs` is the text from its first character on. -/
def number (cs : List Char) : Except Stop (Json × List Char) :=
  let (negative, body) := match cs with
    | '-' :: rest => (true, rest)
    | _ => (false, cs)
  match wholeDigits body with
  | none => .error (.complaint .value cs)
  | some (whole, rest) =>
    let (fraction, rest) := fractionDigits rest
    let e := exponentPart rest
    if fraction.isEmpty && e.isNone then
      match Integer.read 10 whole with
      | .ok n => .ok (.int (if negative then -n else n), rest)
      | .error f => .error (.integer f)
    else
      let (power, rest) := e.getD (0, rest)
      let x := Binary64.ofDecimal negative (ofDigits 10 (whole ++ fraction))
        (power - fraction.length)
      .ok (.float x, rest)

/-- What follows a word, if the text begins with it. -/
def word? (w : String) (cs : List Char) : Option (List Char) :=
  let w := w.toList
  if w.isPrefixOf cs then some (cs.drop w.length) else none

/-- Reads a value that is neither a string nor a collection. -/
def atom (cs : List Char) : Except Stop (Json × List Char) :=
  match word? "null" cs with
  | some rest => .ok (.null, rest)
  | none =>
    match word? "true" cs with
    | some rest => .ok (.bool true, rest)
    | none =>
      match word? "false" cs with
      | some rest => .ok (.bool false, rest)
      | none =>
        match word? "NaN" cs with
        | some rest => .ok (.float .nan, rest)
        | none =>
          match word? "Infinity" cs with
          | some rest => .ok (.float (.infinite false), rest)
          | none =>
            match word? "-Infinity" cs with
            | some rest => .ok (.float (.infinite true), rest)
            | none => number cs

mutual

/-- Reads the value that the text begins with. -/
def value : Nat → List Char → Except Stop (Json × List Char)
  | 0, cs => .error (.complaint .value cs)
  | _, [] => .error (.complaint .value [])
  | fuel + 1, c :: rest =>
    if c = '"' then do
      let (s, left) ← string (c :: rest) rest
      .ok (.str s, left)
    else if c = '[' then
      match skipSpace rest with
      | ']' :: left => .ok (.arr [], left)
      | body => do
        let (items, left) ← elements fuel body
        .ok (.arr items, left)
    else if c = '{' then
      match skipSpace rest with
      | '}' :: left => .ok (.obj [], left)
      | body => do
        let (members, left) ← members fuel body []
        .ok (.obj members, left)
    else atom (c :: rest)

/-- Reads the elements of an array up to its closing bracket. -/
def elements : Nat → List Char → Except Stop (List Json × List Char)
  | 0, cs => .error (.complaint .value cs)
  | fuel + 1, cs => do
    let (v, after) ← value fuel cs
    match skipSpace after with
    | ']' :: left => .ok ([v], left)
    | ',' :: more =>
      let (vs, left) ← elements fuel (skipSpace more)
      .ok (v :: vs, left)
    | other => .error (.complaint .comma other)

/-- Reads the members of an object up to its closing brace, after those already read. -/
def members : Nat → List Char → List (String × Json) →
    Except Stop (List (String × Json) × List Char)
  | 0, cs, _ => .error (.complaint .memberName cs)
  | fuel + 1, cs, seen =>
    match cs with
    | '"' :: rest => do
      let (name, after) ← string cs rest
      match skipSpace after with
      | ':' :: more =>
        let (v, after) ← value fuel (skipSpace more)
        let seen := put name v seen
        match skipSpace after with
        | '}' :: left => .ok (seen, left)
        | ',' :: more => members fuel (skipSpace more) seen
        | other => .error (.complaint .comma other)
      | other => .error (.complaint .colon other)
    | other => .error (.complaint .memberName other)

end

/-- Why a text is not JSON: a complaint about one place in it, or a number too long to read. -/
inductive Fault where
  | syntaxAt (what : Complaint) (line column index : Nat)
  | integer (fault : Integer.Fault)
deriving Repr, DecidableEq

/-- The wording of a fault. -/
def Fault.message : Fault → String
  | .syntaxAt what line column index =>
    s!"{what.text}: line {line} column {column} (char {index})"
  | .integer fault => fault.message

/-- The fault at a place of a text: lines and columns count from one. -/
def Fault.locate (text : List Char) (what : Complaint) (index : Nat) : Fault :=
  let before := text.take index
  let line := before.count '\n' + 1
  let column := (before.reverse.takeWhile (· ≠ '\n')).length + 1
  .syntaxAt what line column index

/-- Reads a text that is one JSON value. -/
def read (text : String) : Except Fault Json :=
  let cs := text.toList
  let fault : Stop → Fault
    | .complaint what rest => .locate cs what (cs.length - rest.length)
    | .integer f => .integer f
  match cs with
  | '\ufeff' :: _ => .error (fault (.complaint .byteOrderMark cs))
  | _ =>
    match value (cs.length + 1) (skipSpace cs) with
    | .error stop => .error (fault stop)
    | .ok (v, after) =>
      match skipSpace after with
      | [] => .ok v
      | rest => .error (fault (.complaint .extra rest))

example : (read "[1, x]").toOption.isNone = true := by decide +kernel
example : read "\x7b\"a\": 1, \"a\": 2\x7d" matches .ok (.obj [("a", .int 2)]) := by decide +kernel

end Json

end ManifestPolicy
