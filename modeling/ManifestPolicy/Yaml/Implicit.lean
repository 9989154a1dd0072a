import ManifestPolicy.Yaml.Timestamp

/-!
# The types of plain scalars

A plain scalar without a tag has the type that its text has the form of: a truth value, a number,
nothing, a timestamp, a merge key or a default key; any other text is a string. The forms are
those of YAML 1.1. A line feed at the end of the text does not count.
-/

namespace ManifestPolicy.Yaml

open Text

/-- The tags of the standard types. -/
def standardTag (name : String) : String := "tag:yaml.org,2002:" ++ name

/-- The words for the truth values. -/
def truthWords : List String :=
  ["yes", "Yes", "YES", "no", "No", "NO", "true", "True", "TRUE", "false", "False", "FALSE",
    "on", "On", "ON", "off", "Off", "OFF"]

/-- The texts for nothing. -/
def nullWords : List String := ["~", "null", "Null", "NULL", ""]

/-- The text without a sign at its front. -/
def dropSign : List Char → List Char
  | c :: cs => if c = '+' ∨ c = '-' then cs else c :: cs
  | [] => []

/-- A digit or an underscore. -/
def isDigitOrUnderscore (c : Char) : Bool := c.isDigit || c == '_'

/-- Whether the text is one or more groups of sixty, each a colon and a number below sixty, and
what follows them. -/
def sixties : Nat → List Char → Bool × List Char
  | 0, cs => (false, cs)
  | fuel + 1, cs =>
    match cs with
    | ':' :: rest =>
      let digits := rest.takeWhile Char.isDigit
      let after := rest.dropWhile Char.isDigit
      let fits := match digits with
        | [_] => true
        | [a, _] => a ≤ '5'
        | _ => false
      if fits then
        let (_, last) := sixties fuel after
        (true, last)
      else (false, cs)
    | _ => (false, cs)

/-- Whether the text has the form of an integer: binary, octal, decimal, hexadecimal, or to the
base sixty. -/
def isIntegerText (cs : List Char) : Bool :=
  match dropSign cs with
  | [] => false
  | '0' :: rest =>
    match rest with
    | [] => true
    | 'b' :: ds => !ds.isEmpty && ds.all fun c => c == '0' || c == '1' || c == '_'
    | 'x' :: ds => !ds.isEmpty && ds.all fun c => isHexDigit c || c == '_'
    | ds => ds.all fun c => ('0' ≤ c && c ≤ '7') || c == '_'
  | c :: rest =>
    c.isDigit &&
      let after := rest.dropWhile isDigitOrUnderscore
      after.isEmpty ||
        let (some60, last) := sixties (after.length + 1) after
        some60 && last.isEmpty

/-- Whether the text is an exponent with a sign and digits, or is empty. -/
def isExponentText : List Char → Bool
  | [] => true
  | e :: s :: ds => (e == 'e' || e == 'E') && (s == '+' || s == '-') && !ds.isEmpty
      && ds.all Char.isDigit
  | _ => false

/-- Whether the text has the form of a real number: with a point, to the base sixty with a point,
infinite, or no number. -/
def isRealText (cs : List Char) : Bool :=
  let unsigned := dropSign cs
  match unsigned with
  | '.' :: rest =>
    let isWord (ws : List String) : Bool := ws.contains (String.ofList rest)
    let digits := rest.dropWhile isDigitOrUnderscore
    isWord ["inf", "Inf", "INF"]
      || (unsigned.length = cs.length
        && (isWord ["nan", "NaN", "NAN"]
          || (rest.headD 'x').isDigit && isExponentText digits))
  | c :: rest =>
    c.isDigit &&
      let after := rest.dropWhile isDigitOrUnderscore
      match after with
      | '.' :: more => isExponentText (more.dropWhile isDigitOrUnderscore)
      | _ =>
        match sixties (after.length + 1) after with
        | (true, '.' :: more) => more.all isDigitOrUnderscore
        | _ => false
  | [] => false

/-- The text without a line feed at its end. -/
def dropFinalBreak (cs : List Char) : List Char :=
  match cs.reverse with
  | '\n' :: rest => rest.reverse
  | _ => cs

/-- The tag of a plain scalar with the text. -/
def implicitTag (text : String) : String :=
  let cs := dropFinalBreak text.toList
  let s := String.ofList cs
  standardTag <|
    if truthWords.contains s then "bool"
    else if isRealText cs then "float"
    else if isIntegerText cs then "int"
    else if s = "<<" then "merge"
    else if nullWords.contains s && !(text = "\n") then "null"
    else if Timestamp.isPlain cs then "timestamp"
    else if s = "=" then "value"
    else if s = "!" ∨ s = "&" ∨ s = "*" then "yaml"
    else "str"

example : implicitTag "1_000" = standardTag "int" := by decide
example : implicitTag "190:20:30.15" = standardTag "float" := by decide
example : implicitTag "08" = standardTag "str" := by decide

end ManifestPolicy.Yaml
