import ManifestPolicy.Yaml.Fault

/-!
# Reading a YAML text

A cursor is what is left of the text and the place reached. The text of a document holds no zero
character, so that character stands for the end of the text.
-/

namespace ManifestPolicy.Yaml

/-- Whether a YAML text may hold the character. -/
def isAllowed (c : Char) : Bool :=
  let n := c.toNat
  n = 0x9 || n = 0xa || n = 0xd || (0x20 ≤ n && n ≤ 0x7e) || n = 0x85 ||
    (0xa0 ≤ n && n ≤ 0xd7ff) || (0xe000 ≤ n && n ≤ 0xfffd) || 0x10000 ≤ n

/-- The first character that a YAML text may not hold, and its place. -/
def firstForbidden : Nat → List Char → Option (Char × Nat)
  | _, [] => none
  | i, c :: cs => if isAllowed c then firstForbidden (i + 1) cs else some (c, i)

/-- The character that stands for the end of the text. -/
def endChar : Char := '\x00'

/-- A break, or the end. -/
def isBreakOrEnd (c : Char) : Bool := isBreak c || c == endChar

/-- A space, a break, or the end. -/
def isSpaceOrEnd (c : Char) : Bool := c == ' ' || isBreakOrEnd c

/-- A space, a tab, a break, or the end. -/
def isGapOrEnd (c : Char) : Bool := c == '\t' || isSpaceOrEnd c

/-- A character of a name: an ASCII letter or digit, a hyphen or an underscore. -/
def isNameChar (c : Char) : Bool := c.isAlphanum || c == '-' || c == '_'

/-- What is left of a text, and the place reached. -/
structure Cursor where
  rest : List Char
  mark : Mark

namespace Cursor

/-- The beginning of a text. -/
def ofText (text : List Char) : Cursor := ⟨text, .start⟩

/-- The next character. -/
def peek (c : Cursor) : Char := c.rest.headD endChar

/-- The character so many places on. -/
def peekAt (c : Cursor) (k : Nat) : Char := c.rest.getD k endChar

/-- The place after the next character. -/
def next (c : Cursor) : Cursor :=
  match c.rest with
  | [] => c
  | ch :: rest => ⟨rest, c.mark.after ch rest.head?⟩

/-- The place so many characters on. -/
def skip : Nat → Cursor → Cursor
  | 0, c => c
  | n + 1, c => skip n c.next

/-- The column reached. -/
def column (c : Cursor) : Nat := c.mark.column

/-- The fuel that suffices for a loop of which each round takes a character. -/
def fuel (c : Cursor) : Nat := c.rest.length + 1

/-- The characters up to the first one outside the class, from a list and a place on. -/
def spanFrom (p : Char → Bool) : List Char → Mark → List Char × Cursor
  | [], m => ([], ⟨[], m⟩)
  | ch :: rest, m =>
    if p ch then
      let (cs, after) := spanFrom p rest (m.after ch rest.head?)
      (ch :: cs, after)
    else ([], ⟨ch :: rest, m⟩)

/-- The characters up to the first one outside the class. -/
def span (p : Char → Bool) (c : Cursor) : List Char × Cursor := spanFrom p c.rest c.mark

/-- The cursor behind the characters of a class. -/
def skipWhile (p : Char → Bool) (c : Cursor) : Cursor := (c.span p).2

/-- The cursor behind spaces. -/
def skipSpaces (c : Cursor) : Cursor := c.skipWhile (· == ' ')

/-- The break at the cursor, if there is one: the separators of lines and paragraphs are kept,
the others become a line feed. -/
def lineBreak (c : Cursor) : List Char × Cursor :=
  match c.rest with
  | '\r' :: '\n' :: _ => (['\n'], c.next.next)
  | ch :: _ =>
    if ch == '\n' || ch == '\r' || ch == '\x85' then (['\n'], c.next)
    else if ch == '\u2028' || ch == '\u2029' then ([ch], c.next)
    else ([], c)
  | [] => ([], c)

/-- Whether three marks of a document's start or end stand at the cursor, followed by a gap. -/
def atSeparator (c : Cursor) : Bool :=
  match c.rest with
  | '-' :: '-' :: '-' :: rest => isGapOrEnd (rest.headD endChar)
  | '.' :: '.' :: '.' :: rest => isGapOrEnd (rest.headD endChar)
  | _ => false

/-- The cursor behind a comment and the spaces before it. -/
def skipComment (c : Cursor) : Cursor :=
  let c := c.skipSpaces
  if c.peek == '#' then c.skipWhile (!isBreakOrEnd ·) else c

end Cursor

/-- A fault met at a place while something was being done. -/
def failAt {α : Type} (activity : Activity) (since : Mark) (problem : Problem) (c : Cursor) :
    Except Failure α :=
  .error (.fault ⟨some (activity, some since), problem, c.mark⟩)

/-- A fault that needs no context. -/
def failPlain {α : Type} (problem : Problem) (m : Mark) : Except Failure α :=
  .error (.fault ⟨none, problem, m⟩)

end ManifestPolicy.Yaml
