import ManifestPolicy.Console.Table
import ManifestPolicy.Mishap

/-!
# Printing

What is printed goes to a screen of some width, piece by piece. A piece that cannot be printed
ends the printing, and what was printed before it stays.

A screen refuses a text that cannot be encoded; here no text with halves of surrogate pairs is
meant.
-/

namespace ManifestPolicy

/-- Text with the line ends that printing gives it, or why there is none. -/
abbrev Piece := Except Trouble (List Char)

namespace Piece

/-- Lines, each with its end. -/
def ofLines (ls : List (List Char)) : List Char := ls.flatMap fun l => l ++ ['\n']

/-- A marked-up text without its tags. -/
def rendered (cs : List Char) : Piece :=
  match Markup.render cs with
  | .ok cs => .ok cs
  | .error f => .error (.mishap (.markup f))

/-- A marked-up text, laid out. -/
def marked (width : Nat) (s : String) : Piece :=
  (rendered s.toList).map fun cs => ofLines (Layout.wrap .ragged .fold width cs)

/-- An empty line. -/
def blank : Piece := .ok ['\n']

/-- A JSON text, unless a number is too long to be written. -/
def written (text : Except Integer.Fault String) : Except Trouble String :=
  match text with
  | .ok s => .ok s
  | .error f => .error (.mishap (.output (.integer f)))

/-- The value that a JSON text holds, over as many lines as it needs, however long. -/
def json (text : String) : Piece :=
  match Json.read text with
  | .error f => .error (.mishap (.breakdown .value f.message))
  | .ok v =>
    (written v.pretty).map fun s =>
      ofLines (Layout.unwrapped (s.toList.filter fun c => !Markup.isDropped c))

/-- A column of marked-up cells. -/
def column (head : String) (a : Layout.Justification) (cells : List String) : Except Trouble Column :=
  do
    let cells ← cells.mapM fun c => rendered c.toList
    return ⟨head.toList, a, cells⟩

/-- A table with a marked-up title. -/
def table (width : Nat) (title : String) (columns : List (Except Trouble Column)) : Piece := do
  let columns ← columns.mapM id
  let title ← rendered title.toList
  return ofLines (Table.lines width ⟨title, columns⟩)

/-- What is printed of some pieces, and what ended the printing if anything did. -/
def print : List Piece → List Char × Option Trouble
  | [] => ([], none)
  | .error t :: _ => ([], some t)
  | .ok cs :: ps =>
    let rest := print ps
    (cs ++ rest.1, rest.2)

end Piece

end ManifestPolicy
