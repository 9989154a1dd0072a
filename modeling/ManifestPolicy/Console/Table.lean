import ManifestPolicy.Console.Layout

/-!
# Tables

A table has a title above it, columns with a head, and lines around and between them. A column is
as wide as its widest cell, with a blank on either side, unless the whole is too wide for the
screen: then the widest columns give way first.
-/

namespace ManifestPolicy

open Layout

/-- A column of a table. -/
structure Column where
  head : List Char
  alignment : Justification
  cells : List (List Char)

/-- A table. -/
structure Table where
  title : List Char
  columns : List Column

namespace Table

/-- The blanks beside the text of a cell. -/
def padding : Nat := 2

/-- The width of a column on a screen that has room for so much. -/
def Column.width (room : Nat) (c : Column) : Nat :=
  if room = 0 then 0
  else if room ≤ padding then room
  else
    let widest := ((c.head :: c.cells).map widest).foldl max 0
    min room (min room widest + padding)

/-- A number divided by another, to the nearest, and to the even one of two that are as near. -/
def divideEven (n d : Nat) : Nat :=
  let q := n / d
  let r := 2 * (n % d)
  if r < d then q else if d < r then q + 1 else if q % 2 = 0 then q else q + 1

/-- Takes a total from the widths that are marked, in equal parts of at most so much each. -/
def reduce (most : Nat) : Nat → Nat → List (Nat × Bool) → List Nat
  | _, _, [] => []
  | total, marked, (width, mark) :: rest =>
    if mark && marked ≠ 0 then
      let part := min most (divideEven total marked)
      (width - part) :: reduce most (total - part) (marked - 1) rest
    else width :: reduce most total marked rest

/-- The width of all columns together. -/
def total (widths : List Nat) : Nat := widths.foldr (· + ·) 0

/-- Narrows the widest columns until the sum is a width, or all columns are as wide. A round takes
the widest columns no further than to the next one below them. -/
def narrow (room : Nat) : Nat → List Nat → List Nat
  | 0, widths => widths
  | rounds + 1, widths =>
    if total widths ≤ room then widths
    else
      let widest := widths.foldl max 0
      let second := (widths.filter (· ≠ widest)).foldl max 0
      let excess := total widths - room
      if widest = second then widths
      else
        let marked := widths.map fun w => (w, w == widest)
        narrow room rounds
          (reduce (min excess (widest - second)) excess (widths.count widest) marked)

/-- Takes what is still too much from all columns alike. -/
def squeeze (room : Nat) (widths : List Nat) : List Nat :=
  let rec go : Nat → Nat → List Nat → List Nat
    | _, _, [] => []
    | total, count, w :: ws =>
      if w = 0 then w :: go total count ws
      else
        let part := min w (divideEven total count)
        (w - part) :: go (total - part) (count - 1) ws
  if total widths ≤ room then widths
  else go (total widths - room) (widths.countP (· ≠ 0)) widths

/-- The widths of the columns in a room. -/
def widths (room : Nat) (columns : List Column) : List Nat :=
  let wanted := columns.map fun c => max 1 (Column.width room c)
  if total wanted ≤ room then wanted
  else
    let narrowed := squeeze room (narrow room (total wanted + 1) wanted)
    List.zipWith (fun c w => Column.width w c) columns narrowed

/-- The lines of a cell, each of the width of its column. A column without room for text has
none. -/
def cellLines (width : Nat) (a : Justification) (cs : List Char) : List (List Char) :=
  let room := width - padding
  if room = 0 then []
  else
    (wrap a .ellipsis room cs).map fun l => ' ' :: l ++ spaces (room - Text.cells l) ++ [' ']

/-- Cells filled up to the height of the highest one. -/
def level (atTop : Bool) (widths : List Nat) (row : List (List (List Char))) :
    List (List (List Char)) :=
  let height := (row.map List.length).foldl max 1
  List.zipWith (fun w ls =>
    let blank := List.replicate (height - ls.length) (spaces w)
    if atTop then ls ++ blank else blank ++ ls) widths row

/-- The lines of a row whose cells are level. -/
def joinCells (bar : Char) : List (List (List Char)) → List (List Char)
  | [] => []
  | [ls] => ls
  | ls :: rest => List.zipWith (fun l r => l ++ bar :: r) ls (joinCells bar rest)

/-- The lines of a row between bars. -/
def rowLines (bar : Char) (atTop : Bool) (widths : List Nat) (row : List (List (List Char))) :
    List (List Char) :=
  (joinCells bar (level atTop widths row)).map fun l => bar :: l ++ [bar]

/-- A line across the table. -/
def rule (left line cross right : Char) (widths : List Nat) : List Char :=
  left :: [cross].intercalate (widths.map fun w => List.replicate w line) ++ [right]

/-- The rows of columns. -/
def rows (columns : List Column) : List (List (List Char)) :=
  (List.range ((columns.map fun c => c.cells.length).foldl max 0)).map fun i =>
    columns.map fun c => c.cells.getD i []

/-- The lines of a row of cells. -/
def layRow (bar : Char) (atTop : Bool) (columns : List Column) (widths : List Nat)
    (row : List (List Char)) : List (List Char) :=
  let laid := List.zipWith (fun (c, w) cell => cellLines w c.alignment cell)
    (columns.zip widths) row
  rowLines bar atTop widths laid

/-- The width of the lines around and between columns. -/
def barWidth (columns : List Column) : Nat := columns.length + 1

/-- The lines of a table on a screen. -/
def lines (screen : Nat) (t : Table) : List (List Char) :=
  let ws := widths (screen - barWidth t.columns) t.columns
  let title := wrap .center .fold (total ws + barWidth t.columns) t.title
  let table := title
    ++ [rule '┏' '━' '┳' '┓' ws]
    ++ layRow '┃' false t.columns ws (t.columns.map Column.head)
    ++ [rule '┡' '━' '╇' '┩' ws]
    ++ (rows t.columns).flatMap (layRow '│' true t.columns ws)
    ++ [rule '└' '─' '┴' '┘' ws]
  table.map (crop screen)

end Table

end ManifestPolicy
