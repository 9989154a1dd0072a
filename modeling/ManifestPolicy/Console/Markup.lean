import ManifestPolicy.Text.Blank

/-!
# Markup

Text that is printed may hold tags between brackets, such as `[bold]` and `[/bold]`, which change
how what stands between them looks, and names of emoji between colons. A backslash before a tag
makes it plain. The screens here know no looks, so that tags only disappear; but a tag that closes
what was not opened is a fault. What is to be printed as it is has to be escaped.

Left out is what the name of a tag may mean beside attributes. A screen that knows colours, links
and handlers tells tags apart by them, and has faults of its own: parameters of a handler that it
cannot read when the tag is closed, and a colour that it cannot read wherever it is named. All of
this takes a tag, and a closing tag before any other finds nothing to close in any case. Of the
emoji, too, most are left out.
-/

namespace ManifestPolicy.Markup

open Text

/-- A part of a marked-up text: a character, or something that looks like a tag, with the number of
backslashes before it and what stands between its brackets. -/
inductive Part where
  | char (c : Char)
  | bracket (backslashes : Nat) (content : List Char)
deriving Repr, DecidableEq

/-- Whether the first character between brackets makes them look like a tag. -/
def opensTag (c : Char) : Bool := ('a' ≤ c && c ≤ 'z') || c == '#' || c == '/' || c == '@'

/-- What stands before the next closing bracket, if no other one opens before it, and what
follows. -/
def untilBracket : List Char → Option (List Char × List Char)
  | [] => none
  | c :: rest =>
    if c = ']' then some ([], rest)
    else if c = '[' then none
    else (untilBracket rest).map fun p => (c :: p.1, p.2)

/-- What stands between brackets that look like a tag, and what follows them. -/
def bracket? : List Char → Option (List Char × List Char)
  | '[' :: c :: rest =>
    if opensTag c then (untilBracket rest).map fun p => (c :: p.1, p.2) else none
  | _ => none

/-- The parts of a text, with fuel for each character. -/
def partsWithin : Nat → List Char → List Part
  | 0, _ => []
  | _, [] => []
  | fuel + 1, c :: cs =>
    let backslashes := (c :: cs).takeWhile (· = '\\')
    match bracket? ((c :: cs).drop backslashes.length) with
    | some (content, rest) => .bracket backslashes.length content :: partsWithin fuel rest
    | none => .char c :: partsWithin fuel cs

/-- The parts of a text. -/
def parts (cs : List Char) : List Part := partsWithin cs.length cs

/-- The text of a part. -/
def Part.text : Part → List Char
  | .char c => [c]
  | .bracket n content => List.replicate n '\\' ++ '[' :: content ++ [']']

/-- A part such that it will be printed as it is. -/
def Part.escaped : Part → List Char
  | .char c => [c]
  | .bracket n content => (Part.bracket (2 * n + 1) content).text

/-- Whether a text ends with one backslash. -/
def endsOpen (cs : List Char) : Bool :=
  match cs.reverse with
  | '\\' :: '\\' :: _ => false
  | '\\' :: _ => true
  | _ => false

/-- The text such that it will be printed as it is. -/
def escapeChars (cs : List Char) : List Char :=
  let escaped := (parts cs).flatMap Part.escaped
  if endsOpen escaped then escaped ++ ['\\'] else escaped

/-- The text such that it will be printed as it is. -/
def escape (s : String) : String := String.ofList (escapeChars s.toList)

/-- What a tag looks like that closes what was not opened. -/
inductive Fault where
  /-- No open tag has the name of this one. -/
  | unmatched (tag : List Char) (position : Nat)
  /-- No tag is open. -/
  | nothingOpen (position : Nat)
deriving Repr, DecidableEq

/-- The wording of a fault. -/
def Fault.message : Fault → String
  | .unmatched tag position =>
    "closing tag '[" ++ String.ofList tag
      ++ s!"]' at position {position} doesn't match any open tag"
  | .nothingOpen position => s!"closing tag '[/]' at position {position} has nothing to close"

/-- The characters that are never printed. -/
def isDropped (c : Char) : Bool :=
  c == '\x07' || c == '\x08' || c == '\x0b' || c == '\x0c' || c == '\r'

/-- The emoji that texts can name, as far as they are known here. -/
def emoji : List (String × Char) :=
  [("smile", '😄'), ("a", '🅰'), ("b", '🅱'), ("m", 'Ⓜ'), ("o", '⭕'), ("v", '✌'), ("x", '❌')]

/-- What stands before the next colon, if no blank does, and what follows. -/
def untilColon : List Char → Option (List Char × List Char)
  | [] => none
  | c :: rest =>
    if c = ':' then some ([], rest)
    else if isBlank c then none
    else (untilColon rest).map fun p => (c :: p.1, p.2)

/-- The emoji of a name in any case. -/
def emojiNamed? (name : List Char) : Option Char :=
  (emoji.find? fun e => e.1.toList = name.map Char.toLower).map (·.2)

/-- Sets emoji in the place of their names, with fuel for each character. Colons around something
else stay, and neither of them begins another name. -/
def emojiWithin : Nat → List Char → List Char
  | 0, cs => cs
  | _, [] => []
  | fuel + 1, c :: cs =>
    if c = ':' then
      match untilColon cs with
      | some (name, rest) =>
        match emojiNamed? name with
        | some e => e :: emojiWithin fuel rest
        | none => ':' :: name ++ ':' :: emojiWithin fuel rest
      | none => c :: emojiWithin fuel cs
    else c :: emojiWithin fuel cs

/-- Drops the backslash before every opening bracket. -/
def bareBrackets : List Char → List Char
  | [] => []
  | '\\' :: '[' :: rest => '[' :: bareBrackets rest
  | c :: rest => c :: bareBrackets rest

/-- A stretch of text without tags, as it is printed. -/
def plain (cs : List Char) : List Char :=
  let cs := bareBrackets cs
  (emojiWithin cs.length cs).filter fun c => !isDropped c

/-- The names of attributes with their short forms, in order. -/
def attributes : List (String × String) :=
  [("bold", "b"), ("dim", "d"), ("italic", "i"), ("underline", "u"), ("blink", "blink"),
    ("blink2", "blink2"), ("reverse", "r"), ("conceal", "c"), ("strike", "s"),
    ("underline2", "uu"), ("frame", "frame"), ("encircle", "encircle"), ("overline", "o")]

/-- The words of a text. -/
def wordsOf (cs : List Char) : List (List Char) :=
  (Text.splitAt ' ' (cs.map fun c => if isBlank c then ' ' else c)).filter fun w => !w.isEmpty

/-- The attributes that words set or take back, the last word first; nothing if some word is no
attribute. -/
def settings? : List (List Char) → Option (List (String × Bool))
  | [] => some []
  | w :: ws =>
    let attribute? (w : List Char) :=
      attributes.find? fun a => a.1.toList = w || a.2.toList = w
    if w = "not".toList then
      match ws with
      | v :: vs => do
        let a ← attribute? v
        return (← settings? vs) ++ [(a.1, false)]
      | [] => none
    else do
      let a ← attribute? w
      return (← settings? ws) ++ [(a.1, true)]

/-- The name that stands for all names with the same effect on attributes. -/
def normalName (name : List Char) : List Char :=
  let lower := (strip name).map Char.toLower
  match settings? (wordsOf lower) with
  | some settings =>
    let words := attributes.filterMap fun a =>
      (settings.find? fun s => s.1 = a.1).map fun s => if s.2 then a.1 else "not " ++ a.1
    if words.isEmpty then lower else (" ".intercalate words).toList
  | none => lower

/-- Removes the first of the open tags, the innermost of which comes first, with a name. -/
def close? (name : List Char) (stack : List (List Char)) : Option (List (List Char)) :=
  if stack.contains name then some (stack.erase name) else none

/-- What tags do to the open ones, the innermost of which comes first. -/
def applyTag (content : List Char) (position : Nat) (stack : List (List Char)) :
    Except Fault (List (List Char)) :=
  let name := content.takeWhile (· ≠ '=')
  match name with
  | '/' :: rest =>
    if (strip rest).isEmpty then
      match stack with
      | [] => .error (.nothingOpen position)
      | _ :: stack => .ok stack
    else
      match close? (normalName (strip rest)) stack with
      | some stack => .ok stack
      | none => .error (.unmatched content position)
  | _ => .ok (normalName name :: stack)

/-- Renders parts from a position on, given the stretch of characters before them, the last one
first, and the open tags. -/
def renderParts (position : Nat) (stretch : List Char) (stack : List (List Char)) :
    List Part → Except Fault (List Char)
  | [] => .ok (plain stretch.reverse)
  | .char c :: ps => renderParts (position + 1) (c :: stretch) stack ps
  | .bracket n content :: ps => do
    let before := plain stretch.reverse ++ List.replicate (n / 2) '\\'
    let next := position + (Part.bracket n content).text.length
    if n % 2 = 1 then
      return before ++ plain ('[' :: content ++ [']']) ++ (← renderParts next [] stack ps)
    else
      let stack ← applyTag content (position + n) stack
      return before ++ (← renderParts next [] stack ps)

/-- The text that is printed for a marked-up one. -/
def render (cs : List Char) : Except Fault (List Char) := renderParts 0 [] [] (parts cs)

example : (render "a[bold]b[/] [1]".toList).toOption = some "ab [1]".toList := by decide +kernel
example : escape "[x]" = "\\[x]" := by decide +kernel
example : (render (escapeChars "[/x] \\".toList)).toOption = some "[/x] \\\\".toList := by
  decide +kernel

end ManifestPolicy.Markup
