import ManifestPolicy.Text.Blank

/-!
# Places in a YAML text

A mark counts characters, lines and columns from zero. A message shows a mark with the part of
its line around it and a caret below.
-/

namespace ManifestPolicy.Yaml

/-- A place in a text. -/
structure Mark where
  index : Nat
  line : Nat
  column : Nat
deriving Repr, DecidableEq, Inhabited

/-- The characters that end a line. -/
def isBreak (c : Char) : Bool :=
  c == '\n' || c == '\r' || c == '\x85' || c == '\u2028' || c == '\u2029'

namespace Mark

/-- The first place. -/
def start : Mark := ⟨0, 0, 0⟩

/-- The place after a character, given the one that follows it. A carriage return before a line
feed does not end the line by itself, and a byte order mark takes no column. -/
def after (m : Mark) (c : Char) (next : Option Char) : Mark :=
  if isBreak c && !(c == '\r' && next == some '\n') then ⟨m.index + 1, m.line + 1, 0⟩
  else if c == '\ufeff' then { m with index := m.index + 1 }
  else ⟨m.index + 1, m.line, m.column + 1⟩

/-- How many characters beside the mark a message shows before it cuts the line … -/
def reach : Nat := 37

/-- … and how many it leaves out for the sign that it was cut. -/
def cutBy : Nat := 5

/-- The sign that a line was cut. -/
def ellipsis : List Char := " ... ".toList

/-- The part of the line around a mark, and a caret below the mark. -/
def snippet (text : List Char) (m : Mark) : String :=
  let before := ((text.take m.index).reverse.takeWhile (!isBreak ·))
  let after := (text.drop m.index).takeWhile (!isBreak ·)
  let (head, before) :=
    if reach ≤ before.length then (ellipsis, before.take (reach - cutBy)) else ([], before)
  let (tail, after) :=
    if reach ≤ after.length then (ellipsis, after.take (reach - cutBy)) else ([], after)
  let indent := List.replicate 4 ' '
  String.ofList (indent ++ head ++ before.reverse ++ after ++ tail ++ ['\n']
    ++ indent ++ List.replicate (head.length + before.length) ' ' ++ ['^'])

/-- The mark as messages show it; lines and columns count from one. -/
def describe (text : List Char) (m : Mark) : String :=
  s!"  in \"<unicode string>\", line {m.line + 1}, column {m.column + 1}:\n" ++ m.snippet text

end Mark

end ManifestPolicy.Yaml
