/-!
# Dates and times

Calendar dates of the years 1 to 9999, and times of day on them with a resolution of a
microsecond and an optional distance from universal time. A date or time is made only from
fields that are in range; the first field out of range is reported.
-/

namespace ManifestPolicy

namespace Calendar

/-- The first field of a date or time that is out of range. -/
inductive Fault where
  | year (year : Nat)
  | month
  | day
  | hour
  | minute
  | second
  /-- The distance from universal time, in seconds, is a day or more. -/
  | offset (seconds : Int)
deriving Repr, DecidableEq

/-- A span of time as whole days and the seconds of the last, incomplete one. -/
def spanText (seconds : Int) : String :=
  let days := seconds / 86400
  let rest := seconds % 86400
  let parts :=
    (if days = 0 then [] else ["days=" ++ toString days]) ++
    (if rest = 0 then [] else ["seconds=" ++ toString rest])
  "datetime.timedelta(" ++ (if parts.isEmpty then "0" else ", ".intercalate parts) ++ ")"

/-- The wording of a fault. -/
def Fault.message : Fault → String
  | .year y => "year " ++ toString y ++ " is out of range"
  | .month => "month must be in 1..12"
  | .day => "day is out of range for month"
  | .hour => "hour must be in 0..23"
  | .minute => "minute must be in 0..59"
  | .second => "second must be in 0..59"
  | .offset seconds =>
    "offset must be a timedelta strictly between -timedelta(hours=24) and timedelta(hours=24), not "
      ++ spanText seconds ++ "."

/-- Whether the year has a 29th of February. -/
def isLeap (year : Nat) : Bool := year % 4 = 0 && (year % 100 ≠ 0 || year % 400 = 0)

/-- The number of days of a month. -/
def daysIn (year month : Nat) : Nat :=
  if month = 2 then (if isLeap year then 29 else 28)
  else if month = 4 || month = 6 || month = 9 || month = 11 then 30
  else 31

end Calendar

/-- A calendar date. -/
structure Date where
  year : Nat
  month : Nat
  day : Nat
deriving Repr, DecidableEq, Inhabited

/-- A time of day on a date. The offset is in seconds; a time without one is not placed in any
zone. -/
structure DateTime where
  date : Date
  hour : Nat
  minute : Nat
  second : Nat
  microsecond : Nat
  offset : Option Int
deriving Repr, DecidableEq, Inhabited

namespace Date

open Calendar

/-- The date with these fields. -/
def make (year month day : Nat) : Except Fault Date :=
  if year < 1 || 9999 < year then .error (.year year)
  else if month < 1 || 12 < month then .error .month
  else if day < 1 || daysIn year month < day then .error .day
  else .ok ⟨year, month, day⟩

/-- The number with leading zeros up to the width. -/
def padded (width n : Nat) : String :=
  let digits := (toString n).toList
  String.ofList (List.replicate (width - digits.length) '0' ++ digits)

/-- The date as year, month and day. -/
def write (d : Date) : String := s!"{padded 4 d.year}-{padded 2 d.month}-{padded 2 d.day}"

/-- The number of days from the first of January of the year 1 to the date. -/
def ordinal (d : Date) : Nat :=
  let y := d.year - 1
  365 * y + y / 4 - y / 100 + y / 400
    + ((List.range (d.month - 1)).map fun m => daysIn d.year (m + 1)).foldr (· + ·) 0
    + (d.day - 1)

end Date

namespace DateTime

open Calendar

/-- A distance from universal time, which has to be less than a day. -/
def offset? (seconds : Int) : Except Fault Int :=
  if seconds.natAbs < 86400 then .ok seconds else .error (.offset seconds)

/-- The time with these fields. -/
def make (year month day hour minute second microsecond : Nat) (offset : Option Int) :
    Except Fault DateTime := do
  let date ← Date.make year month day
  if 23 < hour then throw .hour
  if 59 < minute then throw .minute
  if 59 < second then throw .second
  return ⟨date, hour, minute, second, microsecond, offset⟩

/-- The offset as a sign, hours and minutes. -/
def writeOffset (seconds : Int) : String :=
  let n := seconds.natAbs
  (if seconds < 0 then "-" else "+")
    ++ s!"{Date.padded 2 (n / 3600)}:{Date.padded 2 (n / 60 % 60)}"

/-- The date, the letter T, the time, its fraction unless that is zero, and the offset. -/
def write (t : DateTime) : String :=
  t.date.write ++ "T"
    ++ s!"{Date.padded 2 t.hour}:{Date.padded 2 t.minute}:{Date.padded 2 t.second}"
    ++ (if t.microsecond = 0 then "" else "." ++ Date.padded 6 t.microsecond)
    ++ (match t.offset with
      | some seconds => writeOffset seconds
      | none => "")

/-- The microseconds from the beginning of the year 1, in universal time if the time has an
offset. -/
def instant (t : DateTime) : Int :=
  let seconds : Int := (t.date.ordinal * 86400 + t.hour * 3600 + t.minute * 60 + t.second : Nat)
  (seconds - t.offset.getD 0) * 1000000 + t.microsecond

/-- Whether two times are the same: both lie in a zone or neither does, at one instant. -/
def same (a b : DateTime) : Bool :=
  a.offset.isSome == b.offset.isSome && a.instant = b.instant

end DateTime

end ManifestPolicy
