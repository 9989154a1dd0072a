import ManifestPolicy.Yaml.Cursor
import ManifestPolicy.Yaml.Token

/-!
# Anchors, aliases, tags and directives

The tokens that are made of names: each function starts at the first character of its token and
returns the token and the cursor behind it.
-/

namespace ManifestPolicy.Yaml

open Text

/-- The characters that may follow the name of an anchor or an alias. -/
def endsAnchor (c : Char) : Bool := isGapOrEnd c || "?:,]\x7d%@\x60".toList.contains c

/-- An anchor or an alias: an indicator and a name. -/
def scanAnchor (c : Cursor) : Except Failure (Token × Cursor) := do
  let isAlias := c.peek == '*'
  let activity : Activity := if isAlias then .aliasName else .anchor
  let (name, after) := c.next.span isNameChar
  if name.isEmpty then failAt activity c.mark (.notAlphanumeric after.peek) c.next
  else if !endsAnchor after.peek then
    failAt activity c.mark (.notAlphanumeric after.peek) after
  else
    let name := String.ofList name
    return (⟨if isAlias then .aliasName name else .anchor name, c.mark, after.mark⟩, after)

/-- Where a tag is read: after an exclamation mark, or in a directive. -/
inductive TagPlace where
  | node
  | directive
deriving Repr, DecidableEq

/-- The activity of reading a handle. -/
def TagPlace.handleActivity : TagPlace → Activity
  | .node => .tag
  | .directive => .directive

/-- The activity of reading a suffix or a stem. -/
def TagPlace.uriActivity : TagPlace → Activity
  | .node => .tagUri
  | .directive => .directiveUri

/-- A handle: one exclamation mark, or a name between two. -/
def scanHandle (place : TagPlace) (since : Mark) (c : Cursor) :
    Except Failure (String × Cursor) := do
  if c.peek != '!' then failAt place.handleActivity since (.notExclamation c.peek) c
  else if c.peekAt 1 == ' ' then return ("!", c.next)
  else
    let (name, after) := c.next.span isNameChar
    if after.peek != '!' then
      failAt place.handleActivity since (.notExclamation after.peek) after
    else return (String.ofList ('!' :: (name ++ ['!'])), after.next)

/-- The characters of a tag's text; the percent sign begins an escape. -/
def isUriChar (c : Char) : Bool :=
  c.isAlphanum || "-;/?:@&=+$,_.!~*'()[]".toList.contains c

/-- The bytes of a run of percent escapes. -/
def uriBytes (place : TagPlace) (since : Mark) :
    Nat → Cursor → Except Failure (List UInt8 × Cursor)
  | 0, c => .ok ([], c)
  | fuel + 1, c =>
    if c.peek == '%' then
      let digits := c.next
      if !isHexDigit digits.peek then
        failAt place.handleActivity since (.notUriEscape digits.peek) digits
      else if !isHexDigit (digits.peekAt 1) then
        failAt place.handleActivity since (.notUriEscape (digits.peekAt 1)) digits
      else do
        let byte := ofDigits 16 [digits.peek, digits.peekAt 1]
        let (bytes, after) ← uriBytes place since fuel digits.next.next
        return (byte.toUInt8 :: bytes, after)
    else .ok ([], c)

/-- The characters of a tag's text, with its escapes resolved. -/
def uriChars (place : TagPlace) (since : Mark) :
    Nat → Cursor → Except Failure (List Char × Cursor)
  | 0, c => .ok ([], c)
  | fuel + 1, c =>
    if isUriChar c.peek then do
      let (cs, after) ← uriChars place since fuel c.next
      return (c.peek :: cs, after)
    else if c.peek == '%' then do
      let (bytes, after) ← uriBytes place since c.fuel c
      match Utf8.decode ⟨bytes.toArray⟩ with
      | .error f =>
        .error (.fault ⟨some (place.handleActivity, some since), .uriEncoding f, c.mark⟩)
      | .ok s =>
        let (cs, last) ← uriChars place since fuel after
        return (s.toList ++ cs, last)
    else .ok ([], c)

/-- The text of a tag, which is not empty. -/
def scanUri (place : TagPlace) (since : Mark) (c : Cursor) :
    Except Failure (String × Cursor) := do
  let (cs, after) ← uriChars place since c.fuel c
  if after.mark = c.mark then failAt place.uriActivity since (.notUri c.peek) c
  else return (String.ofList cs, after)

/-- Whether an exclamation mark stands before the end of the word. -/
def handleAhead : List Char → Bool
  | [] => false
  | c :: cs => if isSpaceOrEnd c then false else c == '!' || handleAhead cs

/-- A tag: verbatim between angle brackets, a lone exclamation mark, or a suffix behind a
handle. -/
def scanTag (c : Cursor) : Except Failure (Token × Cursor) := do
  let since := c.mark
  let (handle, suffix, after) ←
    if c.peekAt 1 == '<' then do
      let (uri, after) ← scanUri .node since c.next.next
      if after.peek != '>' then failAt .tagUri since (.notClosingAngle after.peek) after
      else pure (none, uri, after.next)
    else if isGapOrEnd (c.peekAt 1) then pure (none, "!", c.next)
    else if handleAhead (c.rest.drop 1) then do
      let (handle, after) ← scanHandle .node since c
      let (uri, after) ← scanUri .node since after
      pure (some handle, uri, after)
    else do
      let (uri, after) ← scanUri .node since c.next
      pure (some "!", uri, after)
  if !isSpaceOrEnd after.peek then failAt .tag since (.notSpace after.peek) after
  else return (⟨.tag handle suffix, since, after.mark⟩, after)

/-- A number of a version. -/
def scanVersionNumber (since : Mark) (c : Cursor) : Except Failure (Nat × Cursor) := do
  let (digits, after) := c.span Char.isDigit
  if digits.isEmpty then failAt .directive since (.notDigit c.peek) c
  else
    match Integer.read 10 digits with
    | .ok n => return (n.toNat, after)
    | .error f => .error (.scalar (.integer f))

/-- The two numbers of a version. -/
def scanVersion (since : Mark) (c : Cursor) : Except Failure (Directive × Cursor) := do
  let (major, after) ← scanVersionNumber since c.skipSpaces
  if after.peek != '.' then failAt .directive since (.notDigitOrPoint after.peek) after
  else
    let (minor, after) ← scanVersionNumber since after.next
    if !isSpaceOrEnd after.peek then
      failAt .directive since (.notDigitOrSpace after.peek) after
    else return (.version major minor, after)

/-- A handle and the stem that it stands for. -/
def scanTagDirective (since : Mark) (c : Cursor) : Except Failure (Directive × Cursor) := do
  let (handle, after) ← scanHandle .directive since c.skipSpaces
  if after.peek != ' ' then failAt .directive since (.notSpace after.peek) after
  else
    let (stem, after) ← scanUri .directive since after.skipSpaces
    if !isSpaceOrEnd after.peek then failAt .directive since (.notSpace after.peek) after
    else return (.tag handle stem, after)

/-- A directive with the line on which it stands. -/
def scanDirective (c : Cursor) : Except Failure (Token × Cursor) := do
  let since := c.mark
  let (name, after) := c.next.span isNameChar
  if name.isEmpty then failAt .directive since (.notAlphanumeric after.peek) c.next
  else if !isSpaceOrEnd after.peek then
    failAt .directive since (.notAlphanumeric after.peek) after
  else
    let (directive, last, after) ←
      if name = "YAML".toList then do
        let (d, after) ← scanVersion since after
        pure (d, after.mark, after)
      else if name = "TAG".toList then do
        let (d, after) ← scanTagDirective since after
        pure (d, after.mark, after)
      else pure (.other (String.ofList name), after.mark, after.skipWhile (!isBreakOrEnd ·))
    let after := after.skipComment
    if !isBreakOrEnd after.peek then
      failAt .directive since (.notCommentOrBreak after.peek) after
    else return (⟨.directive directive, since, last⟩, after.lineBreak.2)

end ManifestPolicy.Yaml
