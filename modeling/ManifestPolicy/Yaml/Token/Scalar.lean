import ManifestPolicy.Text.Digit
import ManifestPolicy.Yaml.Cursor
import ManifestPolicy.Yaml.Token

/-!
# Scalars

The three forms of a scalar's text. A plain scalar ends where a mark of structure begins; a
quoted one ends at its quote; a block scalar ends where the indentation falls. In each form a
single line break between two lines of text is folded into a space.
-/

namespace ManifestPolicy.Yaml

open Text

/-- The text that a run of breaks stands for, between two lines: one line feed is a space, and of
several the first one is dropped. -/
def foldBreaks (first more : List Char) : List Char :=
  (if first ≠ ['\n'] then first else if more.isEmpty then [' '] else []) ++ more

/-! ## Plain scalars -/

/-- Whether the character ends a plain scalar, given the one after it. -/
def endsPlain (inFlow : Bool) (c next : Char) : Bool :=
  isGapOrEnd c
    || (c == ':' && (isGapOrEnd next || (inFlow && ",[]\x7b\x7d".toList.contains next)))
    || (inFlow && ",?[]\x7b\x7d".toList.contains c)

/-- The characters of a plain scalar up to the next gap or mark of structure. -/
def plainWordFrom (inFlow : Bool) : List Char → Mark → List Char × Cursor
  | [], m => ([], ⟨[], m⟩)
  | ch :: rest, m =>
    if endsPlain inFlow ch (rest.headD endChar) then ([], ⟨ch :: rest, m⟩)
    else
      let (cs, after) := plainWordFrom inFlow rest (m.after ch rest.head?)
      (ch :: cs, after)

/-- What stands between two words of a plain scalar. -/
structure PlainGap where
  /-- The text that the gap stands for; none if the scalar ends before it. -/
  text : Option (List Char)
  hasBreak : Bool
  after : Cursor

/-- Breaks and the spaces around them, up to a separator of documents, which ends the scalar. -/
def plainBreaks : Nat → Cursor → Option (List Char) × Cursor
  | 0, c => (some [], c)
  | fuel + 1, c =>
    if c.peek == ' ' then plainBreaks fuel c.next
    else if isBreak c.peek then
      let (b, after) := c.lineBreak
      if after.atSeparator then (none, after)
      else
        let (more, last) := plainBreaks fuel after
        (more.map (b ++ ·), last)
    else (some [], c)

/-- The gap at the cursor. -/
def plainGap (c : Cursor) : PlainGap :=
  let (spaces, after) := c.span (· == ' ')
  if isBreak after.peek then
    let (first, after) := after.lineBreak
    if after.atSeparator then ⟨none, true, after⟩
    else
      let (more, last) := plainBreaks after.fuel after
      ⟨more.map (foldBreaks first ·), true, last⟩
  else ⟨if spaces.isEmpty then none else some spaces, false, after⟩

/-- A plain scalar that has been read: its text, its end, and whether a break was the last thing
passed over behind it. -/
structure Plain where
  text : List Char
  stop : Mark
  broken : Bool
  after : Cursor

/-- Reads the words of a plain scalar, given what has been read of it, the gap before the next
word, and the least column of a continuation line. -/
def plainWords (inFlow : Bool) (indent : Int) : Nat → Plain → List Char → Plain
  | 0, p, _ => p
  | fuel + 1, p, gap =>
    if p.after.peek == '#' then p
    else
      let (word, after) := plainWordFrom inFlow p.after.rest p.after.mark
      if word.isEmpty then p
      else
        let g := plainGap after
        let p : Plain := ⟨p.text ++ gap ++ word, after.mark, g.hasBreak, g.after⟩
        match g.text with
        | none => p
        | some text =>
          if text.isEmpty || p.after.peek == '#' || (!inFlow && (p.after.column : Int) < indent)
          then p
          else plainWords inFlow indent fuel p text

/-- Reads a plain scalar. -/
def scanPlain (inFlow : Bool) (indent : Int) (c : Cursor) : Token × Bool × Cursor :=
  let p := plainWords inFlow indent c.fuel ⟨[], c.mark, false, c⟩ []
  (⟨.scalar (String.ofList p.text) true, c.mark, p.stop⟩, p.broken, p.after)

/-! ## Quoted scalars -/

/-- The character that a backslash and a letter stand for. -/
def escapedCharacter : Char → Option Char
  | '0' => some '\x00'
  | 'a' => some '\x07'
  | 'b' => some '\x08'
  | 't' => some '\t'
  | '\t' => some '\t'
  | 'n' => some '\n'
  | 'v' => some '\x0b'
  | 'f' => some '\x0c'
  | 'r' => some '\r'
  | 'e' => some '\x1b'
  | ' ' => some ' '
  | '"' => some '"'
  | '\\' => some '\\'
  | '/' => some '/'
  | 'N' => some '\x85'
  | '_' => some '\xa0'
  | 'L' => some '\u2028'
  | 'P' => some '\u2029'
  | _ => none

/-- The number of hexadecimal digits that follow a backslash and a letter. -/
def escapeLength : Char → Option Nat
  | 'x' => some 2
  | 'u' => some 4
  | 'U' => some 8
  | _ => none

/-- Breaks and blanks inside a quoted scalar; a separator of documents may not stand there. -/
def quotedBreaks (since : Mark) : Nat → Cursor → Except Failure (List Char × Cursor)
  | 0, c => .ok ([], c)
  | fuel + 1, c =>
    if c.atSeparator then failAt .quotedScalar since .unexpectedSeparator c
    else
      let c := c.skipWhile fun ch => ch == ' ' || ch == '\t'
      if isBreak c.peek then do
        let (b, after) := c.lineBreak
        let (more, last) ← quotedBreaks since fuel after
        return (b ++ more, last)
      else .ok ([], c)

/-- Blanks and breaks between two words of a quoted scalar. -/
def quotedGap (since : Mark) (c : Cursor) : Except Failure (List Char × Cursor) := do
  let (blanks, after) := c.span fun ch => ch == ' ' || ch == '\t'
  if after.rest.isEmpty then failAt .quotedScalar since .unexpectedEnd after
  else if isBreak after.peek then
    let (first, after) := after.lineBreak
    let (more, last) ← quotedBreaks since after.fuel after
    return (foldBreaks first more, last)
  else return (blanks, after)

/-- The character that a code names, if it names one. -/
def charOfCode (code : Nat) : Except Failure Char :=
  if 0x80000000 ≤ code then .error (.scalar .codePointSize)
  else if 0x110000 ≤ code then .error (.scalar .codePoint)
  else .ok (if 0xd800 ≤ code && code < 0xe000 then Text.Utf8.half code else Char.ofNat code)

/-- The character of a hexadecimal escape; the cursor stands at its first digit. -/
def hexEscape (since : Mark) (length : Nat) (c : Cursor) : Except Failure (Char × Cursor) := do
  let digits := (List.range length).map c.peekAt
  match digits.find? (!isHexDigit ·) with
  | some bad => failAt .doubleQuoted since (.notHexEscape length bad) c
  | none => return (← charOfCode (ofDigits 16 digits), c.skip length)

/-- The characters of a quoted scalar up to a gap or its quote. -/
def quotedWord (double : Bool) (since : Mark) :
    Nat → Cursor → Except Failure (List Char × Cursor)
  | 0, c => .ok ([], c)
  | fuel + 1, c =>
    let ch := c.peek
    if isGapOrEnd ch then .ok ([], c)
    else if double then
      if ch == '"' then .ok ([], c)
      else if ch == '\\' then
        let e := c.next
        match escapedCharacter e.peek with
        | some r => do
          let (cs, after) ← quotedWord double since fuel e.next
          return (r :: cs, after)
        | none =>
          match escapeLength e.peek with
          | some length => do
            let (r, after) ← hexEscape since length e.next
            let (cs, after) ← quotedWord double since fuel after
            return (r :: cs, after)
          | none =>
            if isBreak e.peek then do
              let after := e.lineBreak.2
              let (breaks, after) ← quotedBreaks since after.fuel after
              let (cs, after) ← quotedWord double since fuel after
              return (breaks ++ cs, after)
            else failAt .doubleQuoted since (.unknownEscape e.peek) e
      else do
        let (cs, after) ← quotedWord double since fuel c.next
        return (ch :: cs, after)
    else if ch == '\'' then
      if c.peekAt 1 == '\'' then do
        let (cs, after) ← quotedWord double since fuel c.next.next
        return ('\'' :: cs, after)
      else .ok ([], c)
    else do
      let (cs, after) ← quotedWord double since fuel c.next
      return (ch :: cs, after)

/-- The rest of a quoted scalar, from a gap or its quote on. -/
def quotedRest (double : Bool) (since : Mark) :
    Nat → Cursor → Except Failure (List Char × Cursor)
  | 0, c => .ok ([], c)
  | fuel + 1, c =>
    if c.peek == (if double then '"' else '\'') then .ok ([], c)
    else do
      let (gap, after) ← quotedGap since c
      let (word, after) ← quotedWord double since after.fuel after
      let (more, last) ← quotedRest double since fuel after
      return (gap ++ word ++ more, last)

/-- Reads a scalar between single or double quotes. -/
def scanQuoted (c : Cursor) : Except Failure (Token × Cursor) := do
  let double := c.peek == '"'
  let since := c.mark
  let (word, after) ← quotedWord double since c.fuel c.next
  let (more, last) ← quotedRest double since c.fuel after
  let last := last.next
  return (⟨.scalar (String.ofList (word ++ more)) false, since, last.mark⟩, last)

/-! ## Block scalars -/

/-- What becomes of the line breaks at the end of a block scalar. -/
inductive Chomping where
  | strip
  | clip
  | keep
deriving Repr, DecidableEq

/-- The chomping that a sign asks for. -/
def chompingOf (c : Char) : Option Chomping :=
  if c == '+' then some .keep else if c == '-' then some .strip else none

/-- The indentation that a digit asks for; zero is refused. -/
def incrementAt (since : Mark) (c : Cursor) : Except Failure (Option Nat × Cursor) :=
  if c.peek.isDigit then
    if c.peek == '0' then failAt .blockScalar since .zeroIndentation c
    else .ok (some (digitValue c.peek), c.next)
  else .ok (none, c)

/-- The signs after the indicator of a block scalar, in either order. -/
def blockHeader (since : Mark) (c : Cursor) :
    Except Failure (Chomping × Option Nat × Cursor) := do
  let (chomping, increment, after) ←
    match chompingOf c.peek with
    | some chomping => do
      let (increment, after) ← incrementAt since c.next
      pure (chomping, increment, after)
    | none => do
      let (increment, after) ← incrementAt since c
      match increment, chompingOf after.peek with
      | some _, some chomping => pure (chomping, increment, after.next)
      | _, _ => pure (Chomping.clip, increment, after)
  if !isSpaceOrEnd after.peek then
    failAt .blockScalar since (.notBlockIndicator after.peek) after
  else
    return (chomping, increment, after)

/-- The blank lines before a block scalar without a given indentation: their breaks, the
greatest column that their spaces reach, and the place behind the last break. -/
def leadingBreaks : Nat → Nat → Mark → Cursor → List Char × Nat × Mark × Cursor
  | 0, deepest, stop, c => ([], deepest, stop, c)
  | fuel + 1, deepest, stop, c =>
    if c.peek == ' ' then
      let c := c.next
      leadingBreaks fuel (max deepest c.column) stop c
    else if isBreak c.peek then
      let (b, after) := c.lineBreak
      let (bs, deepest, stop, last) := leadingBreaks fuel deepest after.mark after
      (b ++ bs, deepest, stop, last)
    else ([], deepest, stop, c)

/-- The spaces of an indentation, and no more than those. -/
def skipIndent (indent : Nat) : Nat → Cursor → Cursor
  | 0, c => c
  | fuel + 1, c =>
    if c.column < indent && c.peek == ' ' then skipIndent indent fuel c.next else c

/-- The blank lines before the next line of a block scalar. -/
def blockBreaks (indent : Nat) : Nat → Mark → Cursor → List Char × Mark × Cursor
  | 0, stop, c => ([], stop, c)
  | fuel + 1, stop, c =>
    let c := skipIndent indent c.fuel c
    if isBreak c.peek then
      let (b, after) := c.lineBreak
      let (bs, stop, last) := blockBreaks indent fuel after.mark after
      (b ++ bs, stop, last)
    else ([], stop, c)

/-- A part of a block scalar: its text, the break behind it, the blank lines after that, and the
place behind the last of them. -/
structure BlockText where
  text : List Char
  lastBreak : List Char
  blank : List Char
  stop : Mark
  after : Cursor

/-- The lines of a block scalar, given what has been read before them. -/
def blockLines (folded : Bool) (indent : Nat) : Nat → BlockText → BlockText
  | 0, b => b
  | fuel + 1, b =>
    let c := b.after
    if c.column = indent && !c.rest.isEmpty then
      let isText : Char → Bool := fun ch => !(ch == ' ' || ch == '\t')
      let startsText := isText c.peek
      let (line, after) := c.span (!isBreakOrEnd ·)
      let (lastBreak, after) := after.lineBreak
      let (blank, stop, after) := blockBreaks indent after.fuel after.mark after
      let text := b.text ++ b.blank ++ line
      if after.column = indent && !after.rest.isEmpty then
        let joint :=
          if folded && lastBreak = ['\n'] && startsText && isText after.peek then
            (if blank.isEmpty then [' '] else [])
          else lastBreak
        blockLines folded indent fuel ⟨text ++ joint, lastBreak, blank, stop, after⟩
      else ⟨text, lastBreak, blank, stop, after⟩
    else b

/-- Reads a block scalar inside a block of the given indentation. -/
def scanBlock (parentIndent : Int) (c : Cursor) : Except Failure (Token × Cursor) := do
  let since := c.mark
  let folded := c.peek == '>'
  let (chomping, increment, after) ← blockHeader since c.next
  let after := after.skipComment
  if !isBreakOrEnd after.peek then
    failAt .blockScalar since (.notCommentOrBreak after.peek) after
  else
    let after := after.lineBreak.2
    let least := (max (parentIndent + 1) 1).toNat
    let (blank, indent, stop, after) :=
      match increment with
      | none =>
        let (blank, deepest, stop, after) := leadingBreaks after.fuel 0 after.mark after
        (blank, max least deepest, stop, after)
      | some n =>
        let indent := least + n - 1
        let (blank, stop, after) := blockBreaks indent after.fuel after.mark after
        (blank, indent, stop, after)
    let b := blockLines folded indent after.fuel ⟨[], [], blank, stop, after⟩
    let text := b.text
      ++ (if chomping = .strip then [] else b.lastBreak)
      ++ (if chomping = .keep then b.blank else [])
    return (⟨.scalar (String.ofList text) false, since, b.stop⟩, b.after)

end ManifestPolicy.Yaml
