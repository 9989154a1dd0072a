import ManifestPolicy.Text.Blank
import ManifestPolicy.Text.Cells

/-!
# Lines on a screen

A text is laid out in lines of a limited width. Lines break between words, each of which keeps the
blanks behind it; a word that is too long for any line is cut, or its line is cut off at the end.
Widths are counted in cells.
-/

namespace ManifestPolicy.Layout

open Text

/-- What becomes of a line that is too long: it is cut into several, or it ends with an ellipsis. -/
inductive Overflow where
  | fold
  | ellipsis
deriving Repr, DecidableEq

/-- Where a line stands between the margins. -/
inductive Justification where
  /-- At the left, with nothing behind it. -/
  | ragged
  | left
  | center
  | right
deriving Repr, DecidableEq

/-- So many blanks. -/
def spaces (n : Nat) : List Char := List.replicate n ' '

/-- The longest beginning of a text that fits into a width. Half a character is left as a blank. -/
def crop : Nat → List Char → List Char
  | _, [] => []
  | width, c :: cs =>
    if cellsOf c ≤ width then c :: crop (width - cellsOf c) cs else spaces width

/-- A text that is made to fit into a width. -/
def truncate (o : Overflow) (width : Nat) (cs : List Char) : List Char :=
  if cells cs ≤ width then cs
  else
    match o with
    | .fold => crop width cs
    | .ellipsis => crop (width - 1) cs ++ ['…']

/-- Takes the word at the front, with the blanks around it. -/
def takeWord (cs : List Char) : List Char × List Char :=
  let front := cs.takeWhile isBlank
  let rest := cs.dropWhile isBlank
  let word := rest.takeWhile (fun c => !isBlank c)
  let rest := rest.dropWhile (fun c => !isBlank c)
  (front ++ word ++ rest.takeWhile isBlank, rest.dropWhile isBlank)

/-- The words of a line with the blanks behind them, with fuel for each character. Blanks alone are
no word. -/
def wordsWithin : Nat → List Char → List (List Char)
  | 0, _ => []
  | fuel + 1, cs =>
    if cs.all isBlank then []
    else
      let p := takeWord cs
      p.1 :: wordsWithin fuel p.2

/-- The words of a line. -/
def words (cs : List Char) : List (List Char) := wordsWithin cs.length cs

/-- Cuts a text into pieces of a width, given the reversed start of the first piece and the cells
that are left for it. -/
def fold (width : Nat) : List Char → Nat → List Char → List (List Char)
  | piece, _, [] => [piece.reverse]
  | piece, left, c :: cs =>
    if cellsOf c ≤ left then fold width (c :: piece) (left - cellsOf c) cs
    else piece.reverse :: fold width [c] (width - cellsOf c) cs

/-- The places at which pieces of a text begin, but not the very beginning. -/
def starts : Nat → List (List Char) → List Nat
  | _, [] => []
  | at_, piece :: pieces =>
    (if at_ = 0 then [] else [at_]) ++ starts (at_ + piece.length) pieces

/-- The places at which lines break, given the place of the first word and the cells that are
taken before it. -/
def breaks (o : Overflow) (width : Nat) : Nat → Nat → List (List Char) → List Nat
  | _, _, [] => []
  | at_, taken, word :: rest =>
    let next := at_ + word.length
    let size := cells (dropBlankEnd word)
    let own := if at_ = 0 then [] else [at_]
    if taken + size ≤ width then breaks o width next (taken + cells word) rest
    else if width < size then
      match o with
      | .fold =>
        let pieces := fold width [] width word
        starts at_ pieces ++ breaks o width next (cells (pieces.getLast?.getD [])) rest
      | .ellipsis => own ++ breaks o width next (cells word) rest
    else own ++ breaks o width next (cells word) rest

/-- Cuts a text at places, given the place of its front. -/
def cutAt : Nat → List Nat → List Char → List (List Char)
  | _, [], cs => [cs]
  | at_, n :: ns, cs => cs.take (n - at_) :: cutAt n ns (cs.drop (n - at_))

/-- Drops blanks at the end of a line that is longer than the width. -/
def dropExcess (width : Nat) (cs : List Char) : List Char :=
  let blanks := cs.length - (dropBlankEnd cs).length
  cs.take (cs.length - min blanks (cs.length - width))

/-- Sets blanks in the place of tabs, up to the next multiple of eight cells. -/
def expandTabs : Nat → List Char → List Char
  | _, [] => []
  | at_, c :: cs =>
    if c = '\t' then
      let n := 8 - at_ % 8
      spaces n ++ expandTabs (at_ + n) cs
    else c :: expandTabs (at_ + cellsOf c) cs

/-- Sets a line between the margins. -/
def align (a : Justification) (o : Overflow) (width : Nat) (cs : List Char) : List Char :=
  match a with
  | .ragged => truncate o width cs
  | .left =>
    let cs := truncate o width cs
    cs ++ spaces (width - cells cs)
  | .center =>
    let cs := truncate o width (dropBlankEnd cs)
    let cs := spaces ((width - cells cs) / 2) ++ cs
    cs ++ spaces (width - cells cs)
  | .right =>
    let cs := truncate o width (dropBlankEnd cs)
    spaces (width - cells cs) ++ cs

/-- Lays out one line. -/
def wrapLine (a : Justification) (o : Overflow) (width : Nat) (cs : List Char) : List (List Char) :=
  let cs := expandTabs 0 cs
  (cutAt 0 (breaks o width 0 0 (words cs)) cs).map fun l =>
    align a o width (dropExcess width l)

/-- Lays out a text. -/
def wrap (a : Justification) (o : Overflow) (width : Nat) (cs : List Char) : List (List Char) :=
  (splitAt '\n' cs).flatMap (wrapLine a o width)

/-- The lines of a text that is not laid out, however long they are. -/
def unwrapped (cs : List Char) : List (List Char) := (splitAt '\n' cs).map (expandTabs 0)

/-- The cells that the longest line of a text takes. -/
def widest (cs : List Char) : Nat :=
  ((linesFrom [] cs).map cells).foldl max 0

example : wrap .ragged .fold 5 "ab cdefghi j".toList =
    ["ab ".toList, "cdefg".toList, "hi j".toList] := by decide +kernel

end ManifestPolicy.Layout
