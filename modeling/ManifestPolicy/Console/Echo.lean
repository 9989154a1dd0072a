import ManifestPolicy.Text.Utf8

/-!
# Echoing

A text that is echoed is printed as it is, without markup and without an end of the last line. But
the screens here are no terminals, and what would steer a terminal is taken out of the text: an
escape character with an opening bracket, then digits, semicolons and question marks, and a letter.
-/

namespace ManifestPolicy.Echo

/-- Whether the character may stand between the bracket and the letter of a sequence. -/
def isParameter (c : Char) : Bool := c == ';' || c == '?' || ('0' ≤ c && c ≤ '9')

/-- Whether the character ends a sequence. -/
def isFinal (c : Char) : Bool := ('a' ≤ c && c ≤ 'z') || ('A' ≤ c && c ≤ 'Z')

/-- The sequence that a text begins with, if it begins with one. -/
def sequence? : List Char → Option (List Char)
  | '\x1b' :: '[' :: cs =>
    match cs.dropWhile isParameter with
    | c :: _ => if isFinal c then some ('\x1b' :: '[' :: cs.takeWhile isParameter ++ [c]) else none
    | [] => none
  | _ => none

/-- A text as it is shown, without so many characters at its front, which belong to a sequence. -/
def shownFrom : Nat → List Char → List Char
  | _, [] => []
  | n + 1, _ :: cs => shownFrom n cs
  | 0, c :: cs =>
    match sequence? (c :: cs) with
    | some sequence => shownFrom (sequence.length - 1) cs
    | none => c :: shownFrom 0 cs

/-- A text as it is shown. -/
def shown (cs : List Char) : List Char := shownFrom 0 cs

example : shown "a\x1b[1;31mb\x1b[c".toList = "ab".toList := by decide +kernel
example : shown "\x1b[\x1b[1m1m".toList = "\x1b[1m".toList := by decide +kernel

end ManifestPolicy.Echo
