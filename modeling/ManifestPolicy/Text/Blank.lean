import ManifestPolicy.Text.Ranges

/-!
# Blanks and lines

The blank characters are the white space of Unicode together with the four information
separators. Text is stripped of them at its ends, and is split at line boundaries, of which
there are more than the line feed.
-/

namespace ManifestPolicy.Text

/-- White space in the sense of Unicode, and the separators U+001C to U+001F. -/
def blanks : Ranges :=
  [(0x9, 0xd), (0x1c, 0x20), (0x85, 0x85), (0xa0, 0xa0), (0x1680, 0x1680), (0x2000, 0x200a),
    (0x2028, 0x2029), (0x202f, 0x202f), (0x205f, 0x205f), (0x3000, 0x3000)]

/-- Whether the character is blank. -/
def isBlank (c : Char) : Bool := blanks.has c

/-- The text without the blanks at its front. -/
def dropBlank (cs : List Char) : List Char := cs.dropWhile isBlank

/-- The text without the blanks at its end. -/
def dropBlankEnd (cs : List Char) : List Char := (cs.reverse.dropWhile isBlank).reverse

/-- The text without the blanks at either end. -/
def strip (cs : List Char) : List Char := dropBlankEnd (dropBlank cs)

/-- The string without the blanks at either end. -/
def trim (s : String) : String := String.ofList (strip s.toList)

/-- The characters that end a line; a carriage return and a line feed together end one. -/
def isLineEnd (c : Char) : Bool :=
  c == '\n' || c == '\r' || c == '\x0b' || c == '\x0c' || c == '\x1c' || c == '\x1d' ||
    c == '\x1e' || c == '\x85' || c == '\u2028' || c == '\u2029'

/-- The lines of the text without their ends, given the reversed start of the first line. A
line that the text does not end is counted only if it holds something. -/
def linesFrom : List Char → List Char → List (List Char)
  | line, [] => if line.isEmpty then [] else [line.reverse]
  | line, '\r' :: '\n' :: rest => line.reverse :: linesFrom [] rest
  | line, c :: rest =>
    if isLineEnd c then line.reverse :: linesFrom [] rest else linesFrom (c :: line) rest

/-- The lines of a text, without their ends. -/
def lines (s : String) : List String := (linesFrom [] s.toList).map String.ofList

/-- The pieces between the occurrences of one character; there is always one more piece than
there are occurrences. -/
def splitAt (sep : Char) : List Char → List (List Char)
  | [] => [[]]
  | c :: cs =>
    if c = sep then [] :: splitAt sep cs
    else match splitAt sep cs with
      | piece :: pieces => (c :: piece) :: pieces
      | [] => [[c]]

/-- Whether the first text occurs somewhere in the second. -/
def occursIn (part : List Char) : List Char → Bool
  | [] => part.isEmpty
  | c :: cs => part.isPrefixOf (c :: cs) || occursIn part cs

example : strip " a b\n".toList = "a b".toList := by decide
example : lines "a\r\nb\x0bc" = ["a", "b", "c"] := by decide
example : splitAt '.' "a..b".toList = ["a".toList, [], "b".toList] := by decide

theorem splitAt_ne_nil (sep : Char) (cs : List Char) : splitAt sep cs ≠ [] := by
  induction cs with
  | nil => simp [splitAt]
  | cons c cs ih =>
    rw [splitAt]
    split
    · simp
    · split <;> simp

end ManifestPolicy.Text
