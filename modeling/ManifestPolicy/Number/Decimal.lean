import ManifestPolicy.Number.Binary64
import ManifestPolicy.Text.Digit

/-!
# Reading real numbers

The text of a real number is a sign, digits with an optional point, and an optional exponent;
or a name of infinity or of the value that is no number, in any case. One underscore may stand
between two digits. Blanks around it are ignored.
-/

namespace ManifestPolicy

open Text

namespace Decimal

/-- ASCII letters in lower case. -/
def lowerAscii (cs : List Char) : List Char := cs.map Char.toLower

/-- The text without underscores, each of which has to stand between two digits. -/
def dropUnderscores : Bool → List Char → Option (List Char)
  | _, [] => some []
  | afterDigit, '_' :: rest =>
    match rest with
    | c :: _ => if afterDigit && c.isDigit then dropUnderscores false rest else none
    | [] => none
  | _, c :: rest => (dropUnderscores c.isDigit rest).map (c :: ·)

/-- The exponent at the front of a text; without one it is zero. -/
def exponent? : List Char → Option Int
  | [] => some 0
  | c :: rest =>
    if c == 'e' || c == 'E' then
      let (negative, ds) := match rest with
        | '-' :: ds => (true, ds)
        | '+' :: ds => (false, ds)
        | ds => (false, ds)
      if ds.isEmpty || !ds.all Char.isDigit then none
      else
        let n : Int := ofDigits 10 ds
        some (if negative then -n else n)
    else none

/-- Reads an unsigned number without underscores or blanks. -/
def unsigned? (negative : Bool) (cs : List Char) : Option Binary64 :=
  let name := lowerAscii cs
  if name = "inf".toList || name = "infinity".toList then some (.infinite negative)
  else if name = "nan".toList then some .nan
  else
    let whole := cs.takeWhile Char.isDigit
    let rest := cs.dropWhile Char.isDigit
    let (part, rest) := match rest with
      | '.' :: more => (more.takeWhile Char.isDigit, more.dropWhile Char.isDigit)
      | _ => ([], rest)
    if whole.isEmpty && part.isEmpty then none
    else (exponent? rest).map fun e =>
      Binary64.ofDecimal negative (ofDigits 10 (whole ++ part)) (e - part.length)

/-- Reads a number without underscores or blanks. -/
def signed? : List Char → Option Binary64
  | '-' :: cs => unsigned? true cs
  | '+' :: cs => unsigned? false cs
  | cs => unsigned? false cs

/-- Reads a number in digits of any script. -/
def read? (text : List Char) : Option Binary64 := do
  let cs ← dropUnderscores false (asciiDigits (stripNumeral text))
  signed? cs

example : (read? " 1_0.5 ".toList).map (·.lt (.ofInt 11)) = some true := by decide +kernel
example : read? "1__0".toList = none := by decide
example : read? ".".toList = none := by decide

end Decimal

end ManifestPolicy
