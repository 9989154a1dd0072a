import ManifestPolicy.Yaml.Token.Lexer

/-!
# From tokens to events

Events tell the structure of a stream: where its documents and collections begin and end, and
the scalars and aliases in them. They are read off the tokens by a machine whose state says which
part of which collection comes next; what encloses it waits on a stack.

If the tokens are faulty, or end early, the events before that are still given.
-/

namespace ManifestPolicy.Yaml

/-- The kinds of event. -/
inductive EventKind where
  | documentStart
  | documentEnd
  | aliasName (name : String)
  /-- A scalar; without a tag its type follows from its text if `resolvable`. -/
  | scalar (anchor : Option String) (tag : Option String) (resolvable : Bool) (text : String)
  | sequenceStart (anchor : Option String) (tag : Option String)
  | sequenceEnd
  | mappingStart (anchor : Option String) (tag : Option String)
  | mappingEnd
  | streamEnd
deriving Repr, DecidableEq

/-- An event and the place where it begins. -/
structure Event where
  kind : EventKind
  start : Mark
deriving Repr, DecidableEq

/-- What comes next. -/
inductive Expect where
  | implicitDocument
  | document
  | documentContent
  | documentEnd
  | blockNode
  | blockSequenceEntry
  | indentlessEntry
  | blockMappingKey
  | blockMappingValue
  | flowSequenceFirst
  | flowSequenceEntry
  | flowPairKey
  | flowPairValue
  | flowPairEnd
  | flowMappingFirst
  | flowMappingKey
  | flowMappingValue
  | flowMappingEmptyValue
  | nothing
deriving Repr, DecidableEq

/-- The state of the machine. -/
structure EventReader where
  tokens : List Token
  /-- Why there are no more tokens. -/
  failure : Failure
  expect : Expect
  /-- What comes after the node that is being read, and after the nodes around it. -/
  waiting : List Expect
  /-- Where the open collections began. -/
  opened : List Mark
  /-- The tag handles of the document and what they stand for. -/
  handles : List (String × String)

/-- The handles that every document has. -/
def defaultHandles : List (String × String) :=
  [("!", "!"), ("!!", "tag:yaml.org,2002:")]

namespace EventReader

/-- The next token. -/
def peek (r : EventReader) : Except Failure Token :=
  match r.tokens with
  | t :: _ => .ok t
  | [] => .error r.failure

/-- The state behind the next token. -/
def advance (r : EventReader) : EventReader := { r with tokens := r.tokens.tail }

/-- The state in which what waits is expected. -/
def resume (r : EventReader) : EventReader :=
  match r.waiting with
  | e :: more => { r with expect := e, waiting := more }
  | [] => { r with expect := .nothing }

/-- The state behind a closed collection. -/
def close (r : EventReader) : EventReader := { r.resume with opened := r.opened.tail }

/-- Where the innermost open collection began. -/
def openedAt (r : EventReader) : Mark := r.opened.headD .start

/-- An event with the next state. -/
abbrev Step := Except Failure (Event × EventReader)

/-- The event of a scalar that is not there, and the next state. -/
def empty (m : Mark) (next : Expect) (r : EventReader) : Step :=
  .ok (⟨.scalar none none true "", m⟩, { r with expect := next })

/-- The properties before a node: its anchor, its tag, where the tag stands, and where the first
of them does. -/
structure Properties where
  anchor : Option String
  tag : Option (Option String × String × Mark)
  start : Option Mark

/-- Reads the properties of a node, of which each kind is taken once and in either order. -/
def properties (r : EventReader) : Except Failure (Properties × EventReader) := do
  let t ← r.peek
  match t.kind with
  | .anchor name =>
    let r := r.advance
    let u ← r.peek
    match u.kind with
    | .tag handle suffix =>
      return (⟨some name, some (handle, suffix, u.start), some t.start⟩, r.advance)
    | _ => return (⟨some name, none, some t.start⟩, r)
  | .tag handle suffix =>
    let r := r.advance
    let u ← r.peek
    match u.kind with
    | .anchor name =>
      return (⟨some name, some (handle, suffix, t.start), some t.start⟩, r.advance)
    | _ => return (⟨none, some (handle, suffix, t.start), some t.start⟩, r)
  | _ => return (⟨none, none, none⟩, r)

/-- The tag that a handle and a suffix stand for. -/
def fullTag (r : EventReader) (p : Properties) : Except Failure (Option String) :=
  match p.tag with
  | none => .ok none
  | some (none, suffix, _) => .ok (some suffix)
  | some (some handle, suffix, m) =>
    match r.handles.find? (·.1 = handle) with
    | some (_, stem) => .ok (some (stem ++ suffix))
    | none => .error (.fault ⟨some (.node, p.start), .undefinedHandle handle, m⟩)

/-- Reads the beginning of a node. Inside a block its collections may be block collections too,
and the value of a key may be a sequence that is not indented. -/
def node (block indentless : Bool) (r : EventReader) : Step := do
  let t ← r.peek
  match t.kind with
  | .aliasName name => return (⟨.aliasName name, t.start⟩, r.advance.resume)
  | _ =>
    let (p, r) ← r.properties
    let tag ← r.fullTag p
    let t ← r.peek
    let start := p.start.getD t.start
    match t.kind, block with
    | .scalar text plain, _ =>
      let resolvable := (plain && tag.isNone) || tag == some "!"
      return (⟨.scalar p.anchor tag resolvable text, start⟩, r.advance.resume)
    | .flowSequenceStart, _ =>
      return (⟨.sequenceStart p.anchor tag, start⟩, { r with expect := .flowSequenceFirst })
    | .flowMappingStart, _ =>
      return (⟨.mappingStart p.anchor tag, start⟩, { r with expect := .flowMappingFirst })
    | .blockSequenceStart, true =>
      return (⟨.sequenceStart p.anchor tag, start⟩,
        { r.advance with expect := .blockSequenceEntry, opened := t.start :: r.opened })
    | .blockMappingStart, true =>
      return (⟨.mappingStart p.anchor tag, start⟩,
        { r.advance with expect := .blockMappingKey, opened := t.start :: r.opened })
    | kind, _ =>
      if indentless && kind = .blockEntry then
        return (⟨.sequenceStart p.anchor tag, start⟩, { r with expect := .indentlessEntry })
      else if p.anchor.isSome || tag.isSome then
        let resolvable := tag.isNone || tag == some "!"
        return (⟨.scalar p.anchor tag resolvable "", start⟩, r.resume)
      else
        let activity : Activity := if block then .blockNode else .flowNode
        .error (.fault ⟨some (activity, some start), .noContent kind.name, t.start⟩)

/-- Reads a node, after which something else is expected. -/
def nodeThen (block indentless : Bool) (next : Expect) (r : EventReader) : Step :=
  node block indentless { r with waiting := next :: r.waiting }

/-- Reads the directives before a document: the version is given at most once, and each handle
is. -/
def directives : Bool → List (String × String) → List Token →
    Except Failure (List (String × String) × List Token)
  | versioned, handles, t :: rest =>
    match t.kind with
    | .directive (.version major _) =>
      if versioned then failPlain .duplicateVersion t.start
      else if major ≠ 1 then failPlain .incompatibleVersion t.start
      else directives true handles rest
    | .directive (.tag handle stem) =>
      if handles.any (·.1 = handle) then failPlain (.duplicateHandle handle) t.start
      else directives versioned (handles ++ [(handle, stem)]) rest
    | .directive (.other _) => directives versioned handles rest
    | _ => .ok (handles, t :: rest)
  | _, handles, [] => .ok (handles, [])

/-- Reads the start of a document, or the end of the stream. -/
def document (r : EventReader) : Step := do
  let r := { r with tokens := r.tokens.dropWhile fun t => t.kind = TokenKind.documentEnd }
  let first ← r.peek
  if first.kind = .streamEnd then
    return (⟨.streamEnd, first.start⟩, { r.advance with expect := .nothing })
  else
    let (own, rest) ← directives false [] r.tokens
    let handles := own ++ defaultHandles.filter fun d => !own.any (·.1 = d.1)
    let r := { r with tokens := rest, handles := handles }
    let t ← r.peek
    if t.kind ≠ .documentStart then failPlain (.notDocumentStart t.kind.name) t.start
    else
      return (⟨.documentStart, first.start⟩,
        { r.advance with expect := .documentContent, waiting := .documentEnd :: r.waiting })

/-- Whether a token of this kind ends the entry of a block collection without a node. -/
def endsEntry (k : TokenKind) : Bool :=
  match k with
  | .key | .value | .blockEnd => true
  | _ => false

/-- Reads an item of a flow sequence, or its end; an item may be a single pair. -/
def flowSequenceItem (r : EventReader) (t : Token) : Step :=
  match t.kind with
  | .flowSequenceEnd => .ok (⟨.sequenceEnd, t.start⟩, r.advance.close)
  | .key => .ok (⟨.mappingStart none none, t.start⟩, { r with expect := .flowPairKey })
  | _ => r.nodeThen false false .flowSequenceEntry

/-- Reads a key of a flow mapping, or its end; a node without a mark is a key of nothing. -/
def flowMappingItem (r : EventReader) (t : Token) : Step := do
  match t.kind with
  | .flowMappingEnd => return (⟨.mappingEnd, t.start⟩, r.advance.close)
  | .key =>
    let r := r.advance
    let u ← r.peek
    match u.kind with
    | .value | .flowEntry | .flowMappingEnd => r.empty t.stop .flowMappingValue
    | _ => r.nodeThen false false .flowMappingValue
  | _ => r.nodeThen false false .flowMappingEmptyValue

/-- Reads the next event. -/
def step (r : EventReader) : Step := do
  let t ← r.peek
  match r.expect with
  | .implicitDocument =>
    match t.kind with
    | .directive _ | .documentStart | .streamEnd => r.document
    | _ =>
      return (⟨.documentStart, t.start⟩,
        { r with
          expect := .blockNode, waiting := .documentEnd :: r.waiting, handles := defaultHandles })
  | .document => r.document
  | .documentContent =>
    match t.kind with
    | .directive _ | .documentStart | .documentEnd | .streamEnd =>
      return (⟨.scalar none none true "", t.start⟩, r.resume)
    | _ => r.node true false
  | .documentEnd =>
    let r := if t.kind = .documentEnd then r.advance else r
    return (⟨.documentEnd, t.start⟩, { r with expect := .document })
  | .blockNode => r.node true false
  | .blockSequenceEntry =>
    match t.kind with
    | .blockEntry =>
      let r := r.advance
      let u ← r.peek
      match u.kind with
      | .blockEntry | .blockEnd => r.empty t.stop .blockSequenceEntry
      | _ => r.nodeThen true false .blockSequenceEntry
    | .blockEnd => return (⟨.sequenceEnd, t.start⟩, r.advance.close)
    | _ =>
      .error (.fault
        ⟨some (.blockCollection, some r.openedAt), .noBlockEnd t.kind.name, t.start⟩)
  | .indentlessEntry =>
    match t.kind with
    | .blockEntry =>
      let r := r.advance
      let u ← r.peek
      if u.kind = .blockEntry || endsEntry u.kind then r.empty t.stop .indentlessEntry
      else r.nodeThen true false .indentlessEntry
    | _ => return (⟨.sequenceEnd, t.start⟩, r.resume)
  | .blockMappingKey =>
    match t.kind with
    | .key =>
      let r := r.advance
      let u ← r.peek
      if endsEntry u.kind then r.empty t.stop .blockMappingValue
      else r.nodeThen true true .blockMappingValue
    | .blockEnd => return (⟨.mappingEnd, t.start⟩, r.advance.close)
    | _ =>
      .error (.fault ⟨some (.blockMapping, some r.openedAt), .noBlockEnd t.kind.name, t.start⟩)
  | .blockMappingValue =>
    match t.kind with
    | .value =>
      let r := r.advance
      let u ← r.peek
      if endsEntry u.kind then r.empty t.stop .blockMappingKey
      else r.nodeThen true true .blockMappingKey
    | _ => r.empty t.start .blockMappingKey
  | .flowSequenceFirst =>
    let r := { r.advance with opened := t.start :: r.opened }
    let u ← r.peek
    r.flowSequenceItem u
  | .flowSequenceEntry =>
    match t.kind with
    | .flowSequenceEnd => r.flowSequenceItem t
    | .flowEntry =>
      let r := r.advance
      let u ← r.peek
      r.flowSequenceItem u
    | _ =>
      .error (.fault
        ⟨some (.flowSequence, some r.openedAt), .noSequenceEnd t.kind.name, t.start⟩)
  | .flowPairKey =>
    let r := r.advance
    let u ← r.peek
    match u.kind with
    | .value | .flowEntry | .flowSequenceEnd => r.empty t.stop .flowPairValue
    | _ => r.nodeThen false false .flowPairValue
  | .flowPairValue =>
    match t.kind with
    | .value =>
      let r := r.advance
      let u ← r.peek
      match u.kind with
      | .flowEntry | .flowSequenceEnd => r.empty t.stop .flowPairEnd
      | _ => r.nodeThen false false .flowPairEnd
    | _ => r.empty t.start .flowPairEnd
  | .flowPairEnd => return (⟨.mappingEnd, t.start⟩, { r with expect := .flowSequenceEntry })
  | .flowMappingFirst =>
    let r := { r.advance with opened := t.start :: r.opened }
    let u ← r.peek
    r.flowMappingItem u
  | .flowMappingKey =>
    match t.kind with
    | .flowMappingEnd => r.flowMappingItem t
    | .flowEntry =>
      let r := r.advance
      let u ← r.peek
      r.flowMappingItem u
    | _ =>
      .error (.fault
        ⟨some (.flowMapping, some r.openedAt), .noMappingEnd t.kind.name, t.start⟩)
  | .flowMappingValue =>
    match t.kind with
    | .value =>
      let r := r.advance
      let u ← r.peek
      match u.kind with
      | .flowEntry | .flowMappingEnd => r.empty t.stop .flowMappingKey
      | _ => r.nodeThen false false .flowMappingKey
    | _ => r.empty t.start .flowMappingKey
  | .flowMappingEmptyValue => r.empty t.start .flowMappingKey
  | .nothing => .error r.failure
end EventReader

/-- The events of a stream, and what stopped them short of its end. -/
structure Events where
  events : List Event
  failure : Option Failure

/-- Reads events until the stream ends or is faulty. -/
def EventReader.run : Nat → EventReader → Events
  | 0, r => ⟨[], some r.failure⟩
  | fuel + 1, r =>
    match r.step with
    | .error f => ⟨[], some f⟩
    | .ok (e, next) =>
      if e.kind = .streamEnd then ⟨[e], none⟩
      else
        let more := EventReader.run fuel next
        ⟨e :: more.events, more.failure⟩

/-- The events of a text. Of the tokens the first one, the start of the stream, says nothing. A
token gives rise to at most four events. -/
def Events.ofText (text : List Char) : Events :=
  let ts := Tokens.ofText text
  let failure := ts.failure.getD (.character endChar text.length)
  EventReader.run (4 * ts.tokens.length + 8)
    { tokens := ts.tokens.tail, failure, expect := .implicitDocument, waiting := [], opened := [],
      handles := defaultHandles }

end ManifestPolicy.Yaml
