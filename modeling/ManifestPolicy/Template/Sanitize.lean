import ManifestPolicy.Settings.Basic
import ManifestPolicy.Text.Blank

/-!
# Making templates plain

Where a template cannot be rendered, its expressions are replaced: those that name a known value
by the text for it, those that include another template by a fixed text, and all others by
nothing. This takes one pass over the text for each known value, one for inclusions and one for
the rest, in this order. In each pass the leftmost match is replaced and the search goes on behind
it.
-/

namespace ManifestPolicy.Template

open Text

/-- A pattern: what is left of a text behind a match at its front. -/
abbrev Pattern := List Char → Option (List Char)

/-- What follows a word at the front of a text. -/
def word (w : List Char) : Pattern := fun cs =>
  if w.isPrefixOf cs then some (cs.drop w.length) else none

/-- Two braces that open an expression. -/
def openBraces : List Char := ['\x7b', '\x7b']

/-- Two braces that close an expression. -/
def closeBraces : List Char := ['\x7d', '\x7d']

/-- What follows the next closing braces on the line. -/
def throughClose : Pattern
  | [] => none
  | '\x7d' :: '\x7d' :: rest => some rest
  | c :: rest => if c = '\n' then none else throughClose rest

/-- An expression that is the value with the key. -/
def valuePattern (key : List Char) : Pattern := fun cs => do
  let rest ← word openBraces cs
  let rest ← word (".Values.".toList ++ key) (dropBlank rest)
  word closeBraces (dropBlank rest)

/-- What follows an inclusion, from behind the quote that opens its name: a closing quote on the
same line, blanks, and anything up to closing braces on the line then reached. Of several closing
quotes the first one that is followed so counts. -/
def throughName : Pattern
  | [] => none
  | c :: rest =>
    if c = '\n' then none
    else if c = '"' then
      match throughClose (dropBlank rest) with
      | some after => some after
      | none => throughName rest
    else throughName rest

/-- An expression that includes another template by its name. -/
def includePattern : Pattern := fun cs => do
  let rest ← word openBraces cs
  let rest ← word "include".toList (dropBlank rest)
  let rest ← word ['"'] (dropBlank rest)
  throughName rest

/-- An expression on one line. -/
def expressionPattern : Pattern := fun cs => do
  throughClose (← word openBraces cs)

/-- Replaces the matches of a pattern, given how many characters belong to the last match
still. -/
def replaceFrom (p : Pattern) (by_ : List Char) : Nat → List Char → List Char
  | _, [] => []
  | n + 1, _ :: cs => replaceFrom p by_ n cs
  | 0, c :: cs =>
    match p (c :: cs) with
    | some rest => by_ ++ replaceFrom p by_ (cs.length - rest.length) cs
    | none => c :: replaceFrom p by_ 0 cs

/-- Replaces the matches of a pattern. -/
def replace (p : Pattern) (by_ cs : List Char) : List Char := replaceFrom p by_ 0 cs

/-- Replaces the known values, one after the other. -/
def replaceValues (placeholders : List (String × String)) (cs : List Char) : List Char :=
  placeholders.foldl (fun cs (key, text) => replace (valuePattern key.toList) text.toList cs) cs

/-- Makes a template plain. -/
def sanitizeChars (s : SanitizerSettings) (cs : List Char) : List Char :=
  let cs := replaceValues s.placeholders cs
  let cs := replace includePattern s.includePlaceholder.toList cs
  replace expressionPattern [] cs

/-- Makes a template plain. -/
def sanitize (s : SanitizerSettings) (text : String) : String :=
  String.ofList (sanitizeChars s text.toList)

example : sanitize {} "a: \x7b\x7b .Values.x \x7d\x7d\n" = "a: \n" := by decide

end ManifestPolicy.Template
