import ManifestPolicy.Yaml.Event
import ManifestPolicy.Yaml.Implicit

/-!
# From events to node graphs

A document is a graph of tagged nodes. Nodes are numbered in the order in which they begin, and an
alias is an edge to a node that has begun before, which may be one that encloses it.

No limit is set to how deep nodes are nested, here or where they become objects.
-/

namespace ManifestPolicy.Yaml

/-- The number of a node in its graph. -/
abbrev NodeId := Nat

/-- What a node holds. -/
inductive Body where
  | scalar (text : String)
  | sequence (items : List NodeId)
  | mapping (pairs : List (NodeId × NodeId))
deriving Repr, DecidableEq, Inhabited

/-- The kind of a node. -/
def Body.kind : Body → NodeKind
  | .scalar _ => .scalar
  | .sequence _ => .sequence
  | .mapping _ => .mapping

/-- A node: its tag, where it begins, and what it holds. -/
structure Node where
  tag : String
  start : Mark
  body : Body
deriving Repr, DecidableEq, Inhabited

/-- The nodes of a document and the one that is its root. -/
structure Graph where
  nodes : Array Node
  root : NodeId
deriving Repr

namespace Graph

/-- A collection whose end has not come yet; a mapping may have a key that waits for its value. -/
inductive Open where
  | sequence (id : NodeId)
  | mapping (id : NodeId) (key : Option NodeId)

/-- A graph that is being built. -/
structure Builder where
  nodes : Array Node
  anchors : List (String × NodeId)
  openNodes : List Open
  root : NodeId

/-- Nothing has been read. -/
def Builder.start : Builder := ⟨#[], [], [], 0⟩

/-- Adds an item to what a sequence holds. -/
def Body.addItem (item : NodeId) : Body → Body
  | .sequence items => .sequence (items ++ [item])
  | b => b

/-- Adds a pair to what a mapping holds. -/
def Body.addPair (key value : NodeId) : Body → Body
  | .mapping pairs => .mapping (pairs ++ [(key, value)])
  | b => b

/-- Changes what a node holds. -/
def updateBody (nodes : Array Node) (id : NodeId) (f : Body → Body) : Array Node :=
  nodes.modify id fun n => { n with body := f n.body }

/-- Puts a finished node into the innermost open collection; without one it is the root. -/
def Builder.place (id : NodeId) (b : Builder) : Builder :=
  match b.openNodes with
  | [] => { b with root := id }
  | .sequence s :: _ => { b with nodes := updateBody b.nodes s (Body.addItem id) }
  | .mapping m none :: more => { b with openNodes := .mapping m (some id) :: more }
  | .mapping m (some key) :: more =>
    { b with
      nodes := updateBody b.nodes m (Body.addPair key id)
      openNodes := .mapping m none :: more }

/-- Adds a node, which takes a name if it has an anchor. A name is given once in a document. -/
def Builder.add (anchor : Option String) (node : Node) (b : Builder) :
    Except Failure (NodeId × Builder) :=
  let id := b.nodes.size
  let nodes := b.nodes.push node
  match anchor with
  | none => .ok (id, { b with nodes })
  | some name =>
    match b.anchors.find? (·.1 = name) with
    | none => .ok (id, { b with nodes, anchors := (name, id) :: b.anchors })
    | some (_, first) =>
      let since := (b.nodes[first]?.getD default).start
      .error (.fault ⟨some (.firstAnchor name, some since), .secondAnchor, node.start⟩)

/-- The tag of a collection: its own, or the standard one of its kind. -/
def collectionTag (tag : Option String) (standard : String) : String :=
  match tag with
  | none => standardTag standard
  | some t => if t = "!" then standardTag standard else t

/-- The tag of a scalar: its own, or the one that its text implies, or that of strings. -/
def scalarTag (tag : Option String) (resolvable : Bool) (text : String) : String :=
  let own := tag.getD "!"
  if own ≠ "!" then own else if resolvable then implicitTag text else standardTag "str"

/-- Takes an event of a document. -/
def Builder.take (e : Event) (b : Builder) : Except Failure Builder :=
  match e.kind with
  | .aliasName name =>
    match b.anchors.find? (·.1 = name) with
    | some (_, id) => .ok (b.place id)
    | none => failPlain (.undefinedAlias name) e.start
  | .scalar anchor tag resolvable text => do
    let (id, b) ← b.add anchor ⟨scalarTag tag resolvable text, e.start, .scalar text⟩
    return b.place id
  | .sequenceStart anchor tag => do
    let (id, b) ← b.add anchor ⟨collectionTag tag "seq", e.start, .sequence []⟩
    return { b with openNodes := .sequence id :: b.openNodes }
  | .mappingStart anchor tag => do
    let (id, b) ← b.add anchor ⟨collectionTag tag "map", e.start, .mapping []⟩
    return { b with openNodes := .mapping id none :: b.openNodes }
  | .sequenceEnd | .mappingEnd =>
    match b.openNodes with
    | .sequence id :: more => .ok ({ b with openNodes := more }.place id)
    | .mapping id _ :: more => .ok ({ b with openNodes := more }.place id)
    | [] => .ok b
  | .documentStart | .documentEnd | .streamEnd => .ok b

/-- Reads the events of a document up to its end, and gives those behind it. -/
def ofEvents (failure : Failure) : Builder → List Event → Except Failure (Graph × List Event)
  | _, [] => .error failure
  | b, e :: rest =>
    if e.kind = .documentEnd then .ok (⟨b.nodes, b.root⟩, rest)
    else
      match b.take e with
      | .ok b => ofEvents failure b rest
      | .error f => .error f

/-- The node with the number. -/
def node (nodes : Array Node) (id : NodeId) : Node := nodes[id]?.getD default

end Graph

/-- The documents of a stream, and what stopped them short of its end. -/
structure Graphs where
  graphs : List Graph
  failure : Option Failure

/-- Reads the documents of a stream; each begins with an event of its own. -/
def Graphs.ofEvents (failure : Failure) : Nat → List Event → Graphs
  | 0, _ => ⟨[], some failure⟩
  | _, [] => ⟨[], some failure⟩
  | fuel + 1, e :: rest =>
    if e.kind = .streamEnd then ⟨[], none⟩
    else
      match Graph.ofEvents failure .start rest with
      | .error f => ⟨[], some f⟩
      | .ok (g, rest) =>
        let more := Graphs.ofEvents failure fuel rest
        ⟨g :: more.graphs, more.failure⟩

/-- The documents of a text. -/
def Graphs.ofText (text : List Char) : Graphs :=
  let es := Events.ofText text
  Graphs.ofEvents (es.failure.getD (.character endChar text.length)) (es.events.length + 1)
    es.events

/-- The document of a text that holds at most one. -/
def Graph.ofText? (text : List Char) : Except Failure (Option Graph) :=
  let es := Events.ofText text
  let failure := es.failure.getD (.character endChar text.length)
  match es.events with
  | [] => .error failure
  | e :: rest =>
    if e.kind = .streamEnd then .ok none
    else
      match Graph.ofEvents failure .start rest with
      | .error f => .error f
      | .ok (g, next) =>
        match next with
        | [] => .error failure
        | e :: _ =>
          if e.kind = .streamEnd then .ok (some g)
          else
            .error (.fault
              ⟨some (.singleDocument, some (Graph.node g.nodes g.root).start),
                .anotherDocument, e.start⟩)

end ManifestPolicy.Yaml
