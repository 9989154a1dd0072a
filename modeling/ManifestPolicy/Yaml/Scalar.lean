import ManifestPolicy.Number.Decimal
import ManifestPolicy.Text.Lowercase
import ManifestPolicy.Value.Basic
import ManifestPolicy.Yaml.Fault
import ManifestPolicy.Yaml.Implicit

/-!
# The values of scalars

What the text of a scalar of each type stands for. A tag may give a scalar a type that its text
does not fit; the value is then refused.
-/

namespace ManifestPolicy.Yaml

open Text

/-- Why the text of a scalar is refused: for a fault of the value itself, or for a problem that is
reported with the scalar's place. -/
inductive Refusal where
  | value (fault : ScalarFault)
  | problem (p : Problem)

/-- The text without underscores. -/
def dropUnderscores (cs : List Char) : List Char := cs.filter (· ≠ '_')

/-- The truth value that a word in any case stands for. -/
def truthOf (text : List Char) : Except ScalarFault Bool :=
  let word := lower text
  let s := String.ofList word
  if s = "yes" || s = "true" || s = "on" then .ok true
  else if s = "no" || s = "false" || s = "off" then .ok false
  else .error (.truth word)

/-- Reads an integer, with its faults as those of a scalar. -/
def readInteger (base : Nat) (cs : List Char) : Except ScalarFault Int :=
  match Integer.read base cs with
  | .ok n => .ok n
  | .error f => .error (.integer f)

/-- The number that digits to the base sixty write, the highest first. -/
def sixtyBased (digits : List Int) : Int := digits.foldl (fun n d => n * 60 + d) 0

/-- The integer that a text stands for. -/
def integerOf (text : List Char) : Except ScalarFault Int := do
  let cs := dropUnderscores text
  match cs with
  | [] => throw .emptyNumeral
  | c :: _ =>
    let sign : Int := if c = '-' then -1 else 1
    let cs := dropSign cs
    match cs with
    | ['0'] => return 0
    | '0' :: 'b' :: ds => return sign * (← readInteger 2 ds)
    | '0' :: 'x' :: ds => return sign * (← readInteger 16 ds)
    | '0' :: _ => return sign * (← readInteger 8 cs)
    | [] => throw .emptyNumeral
    | _ =>
      if cs.contains ':' then
        let digits ← (splitAt ':' cs).mapM (readInteger 10)
        return sign * sixtyBased digits
      else return sign * (← readInteger 10 cs)

/-- Reads a real number, with its faults as those of a scalar. -/
def readReal (cs : List Char) : Except ScalarFault Binary64 :=
  match Decimal.read? cs with
  | some x => .ok x
  | none => .error (.real cs)

/-- The sum of digits to the base sixty, the lowest first, each rounded as it is added. -/
def sixtySum : Binary64 → Nat → List Binary64 → Except ScalarFault Binary64
  | sum, _, [] => .ok sum
  | sum, base, d :: ds =>
    match Binary64.ofFraction false base 1 with
    | .infinite _ => .error .factorSize
    | factor => sixtySum (sum.add (d.mul factor)) (base * 60) ds

/-- Whether a text names the real number that is none. -/
def namesNaN (text : List Char) : Bool := dropSign (lower (dropUnderscores text)) = ".nan".toList

/-- The real number that a text stands for. -/
def realOf (text : List Char) : Except ScalarFault Binary64 := do
  let cs := lower (dropUnderscores text)
  match cs with
  | [] => throw .emptyNumeral
  | c :: _ =>
    let signed (x : Binary64) : Binary64 := if c = '-' then x.neg else x
    let cs := dropSign cs
    if cs = ".inf".toList then return signed (.infinite false)
    else if cs = ".nan".toList then return .nan
    else if cs.contains ':' then
      let digits ← (splitAt ':' cs).mapM readReal
      return signed (← sixtySum .zero 1 digits.reverse)
    else return signed (← readReal cs)

/-- The date or time that a text stands for. -/
def timestampOf (text : List Char) : Except ScalarFault Value :=
  match Timestamp.read? text with
  | none => .error .timestamp
  | some t =>
    match t.toValue with
    | .ok (.inl d) => .ok (.date d)
    | .ok (.inr t) => .ok (.time t)
    | .error f => .error (.calendar f)

/-- The six bits that a character of base 64 stands for. -/
def sextet (c : Char) : Option Nat :=
  if 'A' ≤ c && c ≤ 'Z' then some (c.toNat - 65)
  else if 'a' ≤ c && c ≤ 'z' then some (c.toNat - 71)
  else if c.isDigit then some (c.toNat + 4)
  else if c = '+' then some 62
  else if c = '/' then some 63
  else none

/-- Reads base 64: characters outside the alphabet are passed over, and the text ends where the
padding completes a group of four. `place` is the place in the group, `left` holds the bits that
are not yet part of a byte, and `pads` counts the padding since the last digit. -/
def base64From : List Char → Nat → Nat → Nat → List UInt8 → Except String (List UInt8)
  | [], place, _, _, out =>
    if place = 0 then .ok out.reverse
    else if place = 1 then
      .error s!"Invalid base64-encoded string: number of data characters ({out.length / 3 * 4 + 1}) cannot be 1 more than a multiple of 4"
    else .error "Incorrect padding"
  | c :: cs, place, left, pads, out =>
    if c = '=' then
      if 2 ≤ place then
        if 4 ≤ place + (pads + 1) then .ok out.reverse
        else base64From cs place left (pads + 1) out
      else base64From cs place left pads out
    else
      match sextet c with
      | none => base64From cs place left pads out
      | some v =>
        if place = 0 then base64From cs 1 v 0 out
        else if place = 1 then
          base64From cs 2 (v % 16) 0 ((left * 4 + v / 16).toUInt8 :: out)
        else if place = 2 then
          base64From cs 3 (v % 4) 0 ((left * 16 + v / 4).toUInt8 :: out)
        else base64From cs 0 0 0 ((left * 64 + v).toUInt8 :: out)

/-- The escape of a character outside ASCII. -/
def asciiEscape (c : Char) : String :=
  let n := c.toNat
  if n < 0x100 then "\\x" ++ Utf8.hexPadded 2 n
  else if n < 0x10000 then "\\u" ++ Utf8.hexPadded 4 n
  else if Utf8.isHalf c then "\\u" ++ Utf8.hexPadded 4 (Utf8.halfCode c)
  else "\\U" ++ Utf8.hexPadded 8 n

/-- The complaint about the first run of characters outside ASCII. -/
def notAsciiText (cs : List Char) : Option String :=
  let before := cs.takeWhile (·.toNat < 0x80)
  let run := (cs.drop before.length).takeWhile (0x80 ≤ ·.toNat)
  match run with
  | [] => none
  | [c] =>
    some s!"'ascii' codec can't encode character '{asciiEscape c}' in position {before.length}: ordinal not in range(128)"
  | _ =>
    some s!"'ascii' codec can't encode characters in position {before.length}-{before.length + run.length - 1}: ordinal not in range(128)"

/-- The bytes that a text in base 64 stands for. -/
def binaryOf (text : List Char) : Except Problem (List UInt8) :=
  match notAsciiText text with
  | some cause => .error (.notAscii cause)
  | none =>
    match base64From text 0 0 0 [] with
    | .ok bytes => .ok bytes
    | .error cause => .error (.notBase64 cause)

/-- The standard types of scalars. -/
inductive ScalarType where
  | null
  | bool
  | int
  | float
  | binary
  | timestamp
  | str
deriving Repr, DecidableEq

/-- The type that a tag names. -/
def ScalarType.ofTag? (tag : String) : Option ScalarType :=
  if tag = standardTag "null" then some .null
  else if tag = standardTag "bool" then some .bool
  else if tag = standardTag "int" then some .int
  else if tag = standardTag "float" then some .float
  else if tag = standardTag "binary" then some .binary
  else if tag = standardTag "timestamp" then some .timestamp
  else if tag = standardTag "str" then some .str
  else none

/-- The value of a scalar of the type. -/
def ScalarType.value (type : ScalarType) (text : String) : Except Refusal Value :=
  let cs := text.toList
  match type with
  | .null => .ok .null
  | .bool => (truthOf cs).mapError .value |>.map .bool
  | .int => (integerOf cs).mapError .value |>.map .int
  | .float => (realOf cs).mapError .value |>.map .float
  | .binary => (binaryOf cs).mapError .problem |>.map .bytes
  | .timestamp => (timestampOf cs).mapError .value
  | .str => .ok (.str text)

end ManifestPolicy.Yaml
