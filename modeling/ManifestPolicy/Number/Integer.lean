import ManifestPolicy.Text.Digit
import ManifestPolicy.Text.Quoted

/-!
# Integers as text

An integer of any size has a value, but only integers of up to 4300 decimal digits are read
from decimal text or written as it. Bases that are powers of two have no such limit. Within a
numeral, one underscore may stand between two digits.
-/

namespace ManifestPolicy

open Text

namespace Integer

/-- The longest decimal numeral that is read or written. -/
def digitLimit : Nat := 4300

/-- Why a text is not read as an integer, or an integer is not written. -/
inductive Fault where
  | literal (base : Nat) (text : List Char)
  | readLimit (digits : Nat)
  | writeLimit
deriving Repr, DecidableEq

/-- The wording of a fault. A long text is shown only in part. -/
def Fault.message : Fault → String
  | .literal base text =>
    s!"invalid literal for int() with base {base}: "
      ++ String.ofList ((quotedChars text).take 200)
  | .readLimit digits =>
    s!"Exceeds the limit ({digitLimit} digits) for integer string conversion: value has {digits} digits; use sys.set_int_max_str_digits() to increase the limit"
  | .writeLimit =>
    s!"Exceeds the limit ({digitLimit} digits) for integer string conversion; use sys.set_int_max_str_digits() to increase the limit"

/-- The decimal text of an integer, if it is short enough. -/
def write? (n : Int) : Option String :=
  let digits := toString n.natAbs
  if digits.length ≤ digitLimit then some (if n < 0 then "-" ++ digits else digits) else none

/-- The decimal text of an integer. -/
def write (n : Int) : Except Fault String :=
  match write? n with
  | some s => .ok s
  | none => .error .writeLimit

/-- The digits in the base that a text begins with, their underscores left out, and what
follows them. An underscore has to be followed by a digit. -/
def digits (base : Nat) : List Char → List Char × List Char
  | [] => ([], [])
  | '_' :: rest =>
    match rest with
    | d :: _ => if digitValue d < base then digits base rest else ([], '_' :: rest)
    | [] => ([], ['_'])
  | c :: rest =>
    if digitValue c < base then
      let (ds, after) := digits base rest
      (c :: ds, after)
    else ([], c :: rest)

/-- The digits that a numeral begins with; its first character is no underscore. -/
def numeralDigits (base : Nat) (cs : List Char) : List Char × List Char :=
  match cs with
  | '_' :: _ => ([], cs)
  | _ => digits base cs

/-- The letter that marks a numeral's base after a leading zero. -/
def baseMark (base : Nat) (c : Char) : Bool :=
  match base with
  | 2 => c == 'b' || c == 'B'
  | 8 => c == 'o' || c == 'O'
  | 16 => c == 'x' || c == 'X'
  | _ => false

/-- The numeral without the mark of its base; an underscore may follow the mark. -/
def dropBaseMark (base : Nat) : List Char → List Char
  | '0' :: c :: rest =>
    if baseMark base c then
      match rest with
      | '_' :: rest' => rest'
      | _ => rest
    else '0' :: c :: rest
  | cs => cs

/-- Reads the numeral of an integer: blanks around it, a sign, and at least one digit. -/
def read (base : Nat) (text : List Char) : Except Fault Int :=
  let cs := asciiDigits (stripNumeral text)
  let (negative, body) := match cs with
    | '-' :: rest => (true, rest)
    | '+' :: rest => (false, rest)
    | _ => (false, cs)
  let (ds, after) := numeralDigits base (dropBaseMark base body)
  if base = 10 && digitLimit < ds.length then .error (.readLimit ds.length)
  else if ds.isEmpty || !after.isEmpty then .error (.literal base text)
  else
    let n : Int := ofDigits base ds
    .ok (if negative then -n else n)

example : read 10 " -1_0 ".toList = .ok (-10) := by rfl
example : read 8 "08".toList = .error (.literal 8 "08".toList) := by rfl

end Integer

end ManifestPolicy
