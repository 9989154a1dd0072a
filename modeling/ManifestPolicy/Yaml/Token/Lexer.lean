import ManifestPolicy.Yaml.Token.Name
import ManifestPolicy.Yaml.Token.Scalar

/-!
# From text to tokens

The lexer walks over the text and keeps, beside the cursor, the indentation of the open blocks,
the depth of flow collections, and the *candidates*: places at which the key of a mapping may
have begun. When a colon is met, the marks for the key, and for the mapping if it begins there,
are put in at the candidate, which is why tokens behind a candidate are not yet settled.

If the text is faulty, the tokens settled before the fault was met are still given.
-/

namespace ManifestPolicy.Yaml

/-- A place at which the key of a mapping may have begun. -/
structure Candidate where
  /-- How many tokens stand before the place. -/
  number : Nat
  /-- At the indentation of its block nothing but a key may begin. -/
  required : Bool
  mark : Mark

/-- The state of the lexer. -/
structure Lexer where
  cursor : Cursor
  /-- The tokens so far, the last one first. -/
  tokens : List Token
  count : Nat
  /-- The number of open flow collections. -/
  flow : Nat
  /-- The indentation of the open block, and those of the blocks around it. -/
  indent : Int
  indents : List Int
  /-- Whether the key of a mapping may begin at the cursor. -/
  keyAllowed : Bool
  /-- At most one candidate for each depth of flow collections. -/
  candidates : List (Nat × Candidate)
  done : Bool

namespace Lexer

/-- The state before the first token but the start of the stream. -/
def ofText (text : List Char) : Lexer :=
  { cursor := .ofText text
    tokens := [⟨.streamStart, .start, .start⟩]
    count := 1
    flow := 0
    indent := -1
    indents := []
    keyAllowed := true
    candidates := []
    done := false }

/-- Adds a token. -/
def push (t : Token) (l : Lexer) : Lexer :=
  { l with tokens := t :: l.tokens, count := l.count + 1 }

/-- Adds a token that takes no text. -/
def pushMark (kind : TokenKind) (l : Lexer) : Lexer :=
  l.push ⟨kind, l.cursor.mark, l.cursor.mark⟩

/-- Adds a token that takes the next characters. -/
def pushChars (kind : TokenKind) (n : Nat) (l : Lexer) : Lexer :=
  let after := l.cursor.skip n
  { l.push ⟨kind, l.cursor.mark, after.mark⟩ with cursor := after }

/-- Puts a token in at a number. -/
def insert (number : Nat) (kind : TokenKind) (m : Mark) (l : Lexer) : Lexer :=
  let behind := l.count - number
  { l with
    tokens := l.tokens.take behind ++ ⟨kind, m, m⟩ :: l.tokens.drop behind
    count := l.count + 1 }

/-- The number of tokens that no candidate stands before. -/
def settled (l : Lexer) : Nat :=
  l.candidates.foldl (fun n c => min n c.2.number) l.count

/-- Drops the candidates that no colon can follow any more: those on an earlier line, and those
more than 1024 characters back. -/
def dropStale (l : Lexer) : Except Failure Lexer :=
  let isStale (c : Candidate) : Bool :=
    c.mark.line ≠ l.cursor.mark.line || 1024 < l.cursor.mark.index - c.mark.index
  match l.candidates.find? fun c => isStale c.2 && c.2.required with
  | some (_, c) => failAt .simpleKey c.mark .noColon l.cursor
  | none => .ok { l with candidates := l.candidates.filter fun c => !isStale c.2 }

/-- Drops the candidate at the depth of the cursor. -/
def dropCandidate (l : Lexer) : Except Failure Lexer :=
  match l.candidates.find? (·.1 = l.flow) with
  | none => .ok l
  | some (_, c) =>
    if c.required then failAt .simpleKey c.mark .noColon l.cursor
    else .ok { l with candidates := l.candidates.filter (·.1 ≠ l.flow) }

/-- Makes the cursor a candidate, if a key may begin here. -/
def addCandidate (l : Lexer) : Except Failure Lexer := do
  if l.keyAllowed then
    let l ← l.dropCandidate
    let required := l.flow = 0 && l.indent = (l.cursor.column : Int)
    return { l with
      candidates := l.candidates ++ [(l.flow, ⟨l.count, required, l.cursor.mark⟩)] }
  else return l

/-- Closes the blocks that are indented deeper than the column. -/
def closeBlocks (column : Int) (l : Lexer) : Lexer :=
  if l.flow ≠ 0 then l
  else
    let rec close : List Int → Lexer → Lexer
      | [], l => l
      | outer :: more, l =>
        if column < l.indent then
          close more { l.pushMark .blockEnd with indent := outer, indents := more }
        else l
    close l.indents l

/-- Opens a block at a column, unless one is open there: the state, and whether one was
opened. -/
def openBlock (column : Int) (l : Lexer) : Bool × Lexer :=
  if l.indent < column then (true, { l with indents := l.indent :: l.indents, indent := column })
  else (false, l)

/-- Passes over blanks, comments and breaks: whether the cursor is inside a comment, the rest and
the place, and whether a break was passed. -/
def blanksFrom : Bool → Bool → List Char → Mark → Bool × Cursor
  | _, broken, [], m => (broken, ⟨[], m⟩)
  | inComment, broken, ch :: rest, m =>
    if isBreak ch then blanksFrom false true rest (m.after ch rest.head?)
    else if inComment then blanksFrom true broken rest (m.after ch rest.head?)
    else if ch == ' ' then blanksFrom false broken rest (m.after ch rest.head?)
    else if ch == '#' then blanksFrom true broken rest (m.after ch rest.head?)
    else (broken, ⟨ch :: rest, m⟩)

/-- Passes over what stands before the next token. Outside flow collections a key may begin on a
new line. -/
def toNextToken (l : Lexer) : Lexer :=
  let c := if l.cursor.mark.index = 0 && l.cursor.peek == '\ufeff' then l.cursor.next
    else l.cursor
  let (broken, after) := blanksFrom false false c.rest c.mark
  { l with cursor := after, keyAllowed := l.keyAllowed || (broken && l.flow = 0) }

/-- The end of the text. -/
def fetchEnd (l : Lexer) : Except Failure Lexer := do
  let l ← (l.closeBlocks (-1)).dropCandidate
  return { l.pushMark .streamEnd with keyAllowed := false, candidates := [], done := true }

/-- A line that begins with a percent sign. -/
def fetchDirective (l : Lexer) : Except Failure Lexer := do
  let l ← (l.closeBlocks (-1)).dropCandidate
  let (t, after) ← scanDirective l.cursor
  return { l.push t with keyAllowed := false, cursor := after }

/-- Three marks that start or end a document. -/
def fetchSeparator (kind : TokenKind) (l : Lexer) : Except Failure Lexer := do
  let l ← (l.closeBlocks (-1)).dropCandidate
  return { l.pushChars kind 3 with keyAllowed := false }

/-- An opening bracket or brace, which may begin a key. -/
def fetchFlowStart (kind : TokenKind) (l : Lexer) : Except Failure Lexer := do
  let l ← l.addCandidate
  return { l.pushChars kind 1 with flow := l.flow + 1, keyAllowed := true }

/-- A closing bracket or brace. -/
def fetchFlowEnd (kind : TokenKind) (l : Lexer) : Except Failure Lexer := do
  let l ← l.dropCandidate
  return { l.pushChars kind 1 with flow := l.flow - 1, keyAllowed := false }

/-- A comma between the entries of a flow collection. -/
def fetchFlowEntry (l : Lexer) : Except Failure Lexer := do
  let l ← l.dropCandidate
  return { l.pushChars .flowEntry 1 with keyAllowed := true }

/-- Opens a block of the kind at the cursor, where only a new line or another mark of structure
allows it. -/
def openBlockHere (kind : TokenKind) (refused : Problem) (l : Lexer) : Except Failure Lexer :=
  if l.flow ≠ 0 then .ok l
  else if !l.keyAllowed then failPlain refused l.cursor.mark
  else
    let (opened, l) := l.openBlock l.cursor.column
    .ok (if opened then l.pushMark kind else l)

/-- A hyphen before the entry of a block sequence. -/
def fetchBlockEntry (l : Lexer) : Except Failure Lexer := do
  let l ← l.openBlockHere .blockSequenceStart .sequenceNotAllowed
  let l ← l.dropCandidate
  return { l.pushChars .blockEntry 1 with keyAllowed := true }

/-- A question mark before a key. -/
def fetchKey (l : Lexer) : Except Failure Lexer := do
  let l ← l.openBlockHere .blockMappingStart .keyNotAllowed
  let l ← l.dropCandidate
  return { l.pushChars .key 1 with keyAllowed := l.flow = 0 }

/-- A colon before a value. If there is a candidate at this depth, the key began there. -/
def fetchValue (l : Lexer) : Except Failure Lexer := do
  match l.candidates.find? (·.1 = l.flow) with
  | some (_, c) =>
    let l := { l with candidates := l.candidates.filter (·.1 ≠ l.flow) }
    let l := l.insert c.number .key c.mark
    let (opened, l) := if l.flow = 0 then l.openBlock c.mark.column else (false, l)
    let l := if opened then l.insert c.number .blockMappingStart c.mark else l
    return { l.pushChars .value 1 with keyAllowed := false }
  | none =>
    let l ← l.openBlockHere .blockMappingStart .valueNotAllowed
    return { l.pushChars .value 1 with keyAllowed := l.flow = 0 }

/-- A token that may begin a key and is read by a function of its own. -/
def fetchWith (scan : Cursor → Except Failure (Token × Cursor)) (l : Lexer) :
    Except Failure Lexer := do
  let l ← l.addCandidate
  let (t, after) ← scan l.cursor
  return { l.push t with keyAllowed := false, cursor := after }

/-- A block scalar. -/
def fetchBlock (l : Lexer) : Except Failure Lexer := do
  let l ← l.dropCandidate
  let (t, after) ← scanBlock l.indent l.cursor
  return { l.push t with keyAllowed := true, cursor := after }

/-- A plain scalar; behind a break that follows it a key may begin. -/
def fetchPlain (l : Lexer) : Except Failure Lexer := do
  let l ← l.addCandidate
  let (t, broken, after) := scanPlain (l.flow ≠ 0) (l.indent + 1) l.cursor
  return { l.push t with keyAllowed := broken, cursor := after }

/-- Whether a plain scalar may begin with the character, given the one after it. -/
def startsPlain (inFlow : Bool) (c next : Char) : Bool :=
  !(isGapOrEnd c || "-?:,[]\x7b\x7d#&*!|>'\"%@\x60".toList.contains c)
    || (!isGapOrEnd next && (c == '-' || (!inFlow && (c == '?' || c == ':'))))

/-- Reads the next token. -/
def fetch (l : Lexer) : Except Failure Lexer := do
  let l ← l.toNextToken.dropStale
  let l := l.closeBlocks l.cursor.column
  let c := l.cursor.peek
  let gapNext := isGapOrEnd (l.cursor.peekAt 1)
  let inFlow := l.flow ≠ 0
  let lineStart := l.cursor.column = 0
  if l.cursor.rest.isEmpty then l.fetchEnd
  else if c == '%' && lineStart then l.fetchDirective
  else if c == '-' && lineStart && l.cursor.atSeparator then l.fetchSeparator .documentStart
  else if c == '.' && lineStart && l.cursor.atSeparator then l.fetchSeparator .documentEnd
  else if c == '[' then l.fetchFlowStart .flowSequenceStart
  else if c == '\x7b' then l.fetchFlowStart .flowMappingStart
  else if c == ']' then l.fetchFlowEnd .flowSequenceEnd
  else if c == '\x7d' then l.fetchFlowEnd .flowMappingEnd
  else if c == ',' then l.fetchFlowEntry
  else if c == '-' && gapNext then l.fetchBlockEntry
  else if c == '?' && (inFlow || gapNext) then l.fetchKey
  else if c == ':' && (inFlow || gapNext) then l.fetchValue
  else if c == '*' || c == '&' then l.fetchWith scanAnchor
  else if c == '!' then l.fetchWith scanTag
  else if (c == '|' || c == '>') && !inFlow then l.fetchBlock
  else if c == '\'' || c == '"' then l.fetchWith scanQuoted
  else if startsPlain inFlow c (l.cursor.peekAt 1) then l.fetchPlain
  else .error (.fault ⟨some (.nextToken, none), .cannotStart c, l.cursor.mark⟩)

/-- The tokens of a lexer, the first one first. -/
def toList (l : Lexer) : List Token := l.tokens.reverse

end Lexer

/-- The tokens of a text, and what stopped them short of the end of the text. -/
structure Tokens where
  tokens : List Token
  failure : Option Failure

/-- Reads tokens until the text ends or is faulty. Candidates are dropped before it is known
which tokens are settled; `settled` counts those that were so before the last token was read. -/
def Lexer.run : Nat → Nat → Lexer → Tokens
  | 0, _, l => ⟨l.toList, none⟩
  | fuel + 1, settled, l =>
    match l.dropStale with
    | .error f => ⟨l.toList.take settled, some f⟩
    | .ok l =>
      match l.fetch with
      | .error f => ⟨l.toList.take l.settled, some f⟩
      | .ok next => if next.done then ⟨next.toList, none⟩ else Lexer.run fuel l.settled next

/-- The tokens of a text. -/
def Tokens.ofText (text : List Char) : Tokens :=
  match firstForbidden 0 text with
  | some (c, position) => ⟨[], some (.character c position)⟩
  | none => Lexer.run (text.length + 2) 0 (.ofText text)

end ManifestPolicy.Yaml
