import ManifestPolicy.Text.Blank
import ManifestPolicy.Text.Digit

/-!
# Patterns and formats of texts

The schema of schemas asks of some texts that they fit a pattern, and of patterns that they are
well formed. Patterns are regular expressions with groups, sets, repetitions and alternatives.
-/

namespace ManifestPolicy.Pattern

open Text

/-- Whether a text holds a number sign at most as its last character. -/
def endsFragment : List Char → Bool
  | [] => true
  | c :: cs => if c = '#' then cs.isEmpty else endsFragment cs

/-- An ASCII letter. -/
def isLetter (c : Char) : Bool := c.isAlpha

/-- Whether a text is a plain name. -/
def isPlainName : List Char → Bool
  | [] => false
  | c :: cs =>
    (isLetter c || c == '_') &&
      cs.all fun c => isLetter c || c.isDigit || c == '-' || c == '.' || c == '_'

/-- A text without one line feed at its end. -/
def dropLineFeed (cs : List Char) : List Char :=
  if cs.getLast? = some '\n' then cs.dropLast else cs

/-- Whether a text fits a pattern, of which those for identifiers and for plain names are known. A
line feed at the end of the text does not count. -/
def fits (pattern text : String) : Bool :=
  let cs := text.toList
  let either (p : List Char → Bool) : Bool := p cs || p (dropLineFeed cs)
  if pattern = "^[^#]*#?$" then either endsFragment
  else if pattern = "^[A-Za-z_][-A-Za-z0-9._]*$" then either isPlainName
  else true

/-- What stands behind a set, from behind its opening bracket. A closing bracket at the front of
the set belongs to it. -/
def afterSet : Bool → List Char → Option (List Char)
  | _, [] => none
  | first, c :: cs =>
    if c = ']' && !first then some cs
    else if c = '\\' then
      match cs with
      | [] => none
      | _ :: cs => afterSet false cs
    else afterSet false cs

/-- What stands behind the opening of a group, from behind its parenthesis: what kind of group it
is has to be known. -/
def afterOpening : List Char → Option (List Char)
  | '?' :: ':' :: cs => some cs
  | '?' :: '=' :: cs => some cs
  | '?' :: '!' :: cs => some cs
  | '?' :: '>' :: cs => some cs
  | '?' :: '<' :: '=' :: cs => some cs
  | '?' :: '<' :: '!' :: cs => some cs
  | '?' :: 'P' :: '<' :: cs =>
    let name := cs.takeWhile (· ≠ '>')
    if isPlainName name then
      match cs.dropWhile (· ≠ '>') with
      | _ :: cs => some cs
      | [] => none
    else none
  | '?' :: _ => none
  | cs => some cs

/-- The letters that may stand behind a backslash. -/
def escapeLetters : List Char := "AbBdDsSwWZafnrtv".toList

/-- What stands behind a repetition in braces, from behind the opening one, if that is one. -/
def afterCount (cs : List Char) : Option (List Char) :=
  let low := cs.takeWhile Char.isDigit
  match cs.dropWhile Char.isDigit with
  | '\x7d' :: rest => if low.isEmpty then none else some rest
  | ',' :: rest =>
    match rest.dropWhile Char.isDigit with
    | '\x7d' :: rest => some rest
    | _ => none
  | _ => none

/-- What stands before a place of a pattern. -/
inductive Before where
  /-- Nothing that could be repeated. -/
  | nothing
  | item
  | repetition
deriving DecidableEq

/-- Whether a pattern is well formed, with fuel for each character, inside so many groups and
behind something. -/
def wellFormedWithin : Nat → Nat → Before → List Char → Bool
  | 0, depth, _, cs => cs.isEmpty && depth = 0
  | _, depth, _, [] => depth = 0
  | fuel + 1, depth, before, c :: cs =>
    if c = '(' then
      match afterOpening cs with
      | some rest => wellFormedWithin fuel (depth + 1) .nothing rest
      | none => false
    else if c = ')' then depth ≠ 0 && wellFormedWithin fuel (depth - 1) .item cs
    else if c = '|' then wellFormedWithin fuel depth .nothing cs
    else if c = '[' then
      let rest := match cs with
        | '^' :: rest => rest
        | rest => rest
      match afterSet true rest with
      | some rest => wellFormedWithin fuel depth .item rest
      | none => false
    else if c = '*' || c = '+' || c = '?' then
      match before with
      | .nothing => false
      | .item =>
        match cs with
        | '?' :: rest => wellFormedWithin fuel depth .repetition rest
        | '+' :: rest => wellFormedWithin fuel depth .repetition rest
        | rest => wellFormedWithin fuel depth .repetition rest
      | .repetition => false
    else if c = '\x7b' then
      match afterCount cs with
      | none => wellFormedWithin fuel depth .item cs
      | some rest =>
        before = .item && wellFormedWithin fuel depth .repetition (match rest with
          | '?' :: rest => rest
          | '+' :: rest => rest
          | rest => rest)
    else if c = '\\' then
      match cs with
      | [] => false
      | e :: rest =>
        (!isLetter e || escapeLetters.contains e) && wellFormedWithin fuel depth .item rest
    else wellFormedWithin fuel depth .item cs

/-- Whether a pattern is well formed. -/
def isWellFormed (cs : List Char) : Bool := wellFormedWithin (cs.length + 1) 0 .nothing cs

/-- Whether a text has a format. Only that of patterns is looked at. -/
def hasFormat (format text : String) : Bool :=
  if format = "regex" then isWellFormed text.toList else true

example : isWellFormed "^a(b|[^]c])*$".toList = true := by decide +kernel
example : isWellFormed "a(".toList = false := by decide +kernel
example : isWellFormed "*".toList = false := by decide +kernel

end ManifestPolicy.Pattern
