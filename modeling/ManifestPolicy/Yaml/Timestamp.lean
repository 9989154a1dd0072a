import ManifestPolicy.Calendar
import ManifestPolicy.Text.Digit

/-!
# Timestamps

The text of a timestamp is a date, and may go on with a time of day, a fraction of a second and
a zone. A plain scalar is a timestamp without being tagged as one if a lone date has two digits
for the month and for the day.
-/

namespace ManifestPolicy.Yaml

open Text

/-- The fields of a timestamp as they stand in the text. -/
structure Timestamp where
  year : Nat
  month : Nat
  day : Nat
  /-- Hour, minute and second. -/
  clock : Option (Nat × Nat × Nat)
  fraction : List Char
  /-- The distance from universal time in seconds. -/
  zone : Option Int
  /-- Whether month and day have two digits each. -/
  padded : Bool
deriving Repr, DecidableEq

namespace Timestamp

/-- One or two digits, and what follows them. -/
def oneOrTwo : List Char → Option (Nat × Bool × List Char)
  | a :: b :: rest =>
    if a.isDigit then
      if b.isDigit then some (ofDigits 10 [a, b], true, rest)
      else some (digitValue a, false, b :: rest)
    else none
  | [a] => if a.isDigit then some (digitValue a, false, []) else none
  | [] => none

/-- Two digits, and what follows them. -/
def two (cs : List Char) : Option (Nat × List Char) :=
  match oneOrTwo cs with
  | some (n, true, rest) => some (n, rest)
  | _ => none

/-- What follows a character, if the text begins with it. -/
def after (c : Char) : List Char → Option (List Char)
  | d :: rest => if d = c then some rest else none
  | [] => none

/-- Whether the text is over; a line feed at its end does not count. -/
def isOver (cs : List Char) : Bool := cs = [] || cs = ['\n']

/-- Whether the character separates the parts of a timestamp. -/
def isGap (c : Char) : Bool := c == ' ' || c == '\t'

/-- The zone: the letter Z, or a sign, hours and perhaps minutes. -/
def zone? (cs : List Char) : Option (Option Int) :=
  if isOver cs then some none
  else
    match cs.dropWhile isGap with
    | 'Z' :: rest => if isOver rest then some (some 0) else none
    | sign :: rest =>
      if sign = '+' ∨ sign = '-' then do
        let (hours, _, rest) ← oneOrTwo rest
        let (minutes, rest) ← match rest with
          | ':' :: more => two more
          | _ => some (0, rest)
        let seconds : Int := (hours * 3600 + minutes * 60 : Nat)
        if isOver rest then some (some (if sign = '-' then -seconds else seconds)) else none
      else none
    | [] => none

/-- The time of day and what follows it. -/
def clock? (cs : List Char) : Option ((Nat × Nat × Nat) × List Char) := do
  let body ← match cs with
    | c :: rest =>
      if c = 'T' ∨ c = 't' then some rest
      else if isGap c then some (rest.dropWhile isGap)
      else none
    | [] => none
  let (hour, _, rest) ← oneOrTwo body
  let (minute, rest) ← two (← after ':' rest)
  let (second, rest) ← two (← after ':' rest)
  return ((hour, minute, second), rest)

/-- Reads the fields of a timestamp. -/
def read? (cs : List Char) : Option Timestamp := do
  let y := cs.take 4
  if y.length ≠ 4 || !y.all Char.isDigit then none
  else
    let (month, wideMonth, rest) ← oneOrTwo (← after '-' (cs.drop 4))
    let (day, wideDay, rest) ← oneOrTwo (← after '-' rest)
    let date : Timestamp :=
      ⟨ofDigits 10 y, month, day, none, [], none, wideMonth && wideDay⟩
    if isOver rest then some date
    else
      let (clock, rest) ← clock? rest
      let (fraction, rest) := match rest with
        | '.' :: more => (more.takeWhile Char.isDigit, more.dropWhile Char.isDigit)
        | _ => ([], rest)
      let zone ← zone? rest
      some { date with clock := some clock, fraction, zone }

/-- Whether a plain scalar with the text is a timestamp. -/
def isPlain (cs : List Char) : Bool :=
  match read? cs with
  | some t => t.clock.isSome || t.padded
  | none => false

/-- The first six digits of a fraction as microseconds. -/
def microseconds (fraction : List Char) : Nat :=
  let digits := fraction.take 6
  ofDigits 10 (digits ++ List.replicate (6 - digits.length) '0')

/-- The date or the time of a timestamp; a zone is looked at before the other fields. -/
def toValue (t : Timestamp) : Except Calendar.Fault (Date ⊕ DateTime) :=
  match t.clock with
  | none => (Date.make t.year t.month t.day).map .inl
  | some (hour, minute, second) => do
    let offset ← match t.zone with
      | none => pure none
      | some seconds => some <$> DateTime.offset? seconds
    let time ← DateTime.make t.year t.month t.day hour minute second
      (microseconds t.fraction) offset
    return .inr time

end Timestamp

end ManifestPolicy.Yaml
