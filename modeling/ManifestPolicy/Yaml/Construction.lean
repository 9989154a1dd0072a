import ManifestPolicy.Yaml.Node
import ManifestPolicy.Yaml.Scalar

/-!
# From node graphs to objects

Each node becomes an object: a scalar its value, a collection a container that is filled later.
Containers are filled in the order in which they were met, level by level, so that the first
fault by levels is the one reported. A key has to be a value that does not change, and a container
is refused as one before it is filled.

Before a mapping is filled, the mappings named by its merge keys are put before its own pairs.
-/

namespace ManifestPolicy.Yaml

/-- What a node has become: a value without parts, or a container. -/
inductive Ref where
  | leaf (v : Value)
  | container (id : NodeId)
deriving Repr, Inhabited

/-- The contents of a container. -/
inductive Contents where
  | list (items : List Ref)
  | pairs (items : List (Ref × Ref))
  | set (items : List Value)
  | map (entries : List (Value × Ref))
deriving Repr, Inhabited

/-- The standard types of containers. -/
inductive ContainerType where
  | seq
  | map
  | set
  | omap
  | pairs
deriving Repr, DecidableEq

/-- The type that a tag names. -/
def ContainerType.ofTag? (tag : String) : Option ContainerType :=
  if tag = standardTag "seq" then some .seq
  else if tag = standardTag "map" then some .map
  else if tag = standardTag "set" then some .set
  else if tag = standardTag "omap" then some .omap
  else if tag = standardTag "pairs" then some .pairs
  else none

/-- Whether two scalars are one key: numbers are compared by value, the truth values counting as
one and zero. -/
def sameKey : Value → Value → Bool
  | .float x, .float y => x.eqv y || (x = .nan && y = .nan)
  | .float x, v => match v with
    | .int n => x.toInt? = some n
    | .bool b => x.toInt? = some (if b then 1 else 0)
    | _ => false
  | v, .float y => match v with
    | .int n => y.toInt? = some n
    | .bool b => y.toInt? = some (if b then 1 else 0)
    | _ => false
  | .int m, .int n => m = n
  | .int m, .bool b => m = if b then 1 else 0
  | .bool b, .int n => n = if b then 1 else 0
  | .bool a, .bool b => a = b
  | .null, .null => true
  | .str s, .str t => s = t
  | .bytes a, .bytes b => a = b
  | .date a, .date b => a = b
  | .time a, .time b => a.same b
  | _, _ => false

/-- A key of a mapping: its value, and its node where only this tells it from the same value. -/
abbrev Key := Value × Option NodeId

/-- Sets the entry of a key: a key that is there already stays as it was first written, in its
place, and takes the new value. -/
def putEntry (key : Key) (ref : Ref) : List (Key × Ref) → List (Key × Ref)
  | [] => [(key, ref)]
  | (k, r) :: rest =>
    if sameKey k.1 key.1 && k.2 = key.2 then (k, ref) :: rest else (k, r) :: putEntry key ref rest

/-- A construction in progress. -/
structure Construction where
  nodes : Array Node
  /-- What the nodes have become, where that is known. -/
  built : Array (Option Ref)
  contents : Array (Option Contents)
  /-- The containers that are still to be filled, the first one first. -/
  waiting : List NodeId

/-- A step of a construction. -/
abbrev Build (α : Type) := StateT Construction (Except Failure) α

namespace Construction

/-- Nothing has been built. -/
def ofGraph (g : Graph) : Construction :=
  { nodes := g.nodes
    built := Array.replicate g.nodes.size none
    contents := Array.replicate g.nodes.size none
    waiting := [] }

/-- The node with the number. -/
def node (id : NodeId) : Build Node := do return Graph.node (← get).nodes id

/-- A failure with a problem at a place. -/
def fail {α : Type} (context : Option (Activity × Option Mark)) (p : Problem) (m : Mark) :
    Build α :=
  throw (.fault ⟨context, p, m⟩)

/-- The pairs of a mapping; other nodes have none. -/
def pairsOf (n : Node) : List (NodeId × NodeId) :=
  match n.body with
  | .mapping pairs => pairs
  | _ => []

/-- Replaces the pairs of a mapping. -/
def setPairs (id : NodeId) (pairs : List (NodeId × NodeId)) : Build Unit :=
  modify fun s => { s with nodes := Graph.updateBody s.nodes id fun _ => .mapping pairs }

/-- Makes the key of a pair an ordinary string. -/
def retag (id : NodeId) : Build Unit :=
  modify fun s => { s with
    nodes := s.nodes.modify id fun n => { n with tag := standardTag "str" } }

/-- The place of the first merge key from a place on. The default keys before it become ordinary
strings. -/
def findMerge (id : NodeId) (from_ : Nat) : Build (Option (Nat × NodeId)) := do
  let rec go : Nat → List (NodeId × NodeId) → Build (Option (Nat × NodeId))
    | _, [] => return none
    | i, (key, value) :: rest => do
      let k ← node key
      if k.tag = standardTag "merge" then return some (i, value)
      else
        if k.tag = standardTag "value" then retag key
        go (i + 1) rest
  go from_ ((pairsOf (← node id)).drop from_)

/-- The pairs that a merge key brings: those of a mapping, or of the mappings of a sequence, the
last of which come first. `flatten` flattens a mapping beforehand. -/
def merged (flatten : NodeId → Build Unit) (id value : NodeId) :
    Build (List (NodeId × NodeId)) := do
  let since := some (Activity.mappingValue, some (← node id).start)
  let v ← node value
  match v.body with
  | .mapping _ =>
    flatten value
    return pairsOf (← node value)
  | .sequence items =>
    let lists ← items.mapM fun item => do
      let n ← node item
      match n.body with
      | .mapping _ =>
        flatten item
        return pairsOf (← node item)
      | b => fail since (.mergeElement b.kind) n.start
    return lists.reverse.flatten
  | .scalar _ => fail since (.mergeValue .scalar) v.start

/-- Takes the merge keys out of a mapping, from a place on, and puts the pairs that they bring
before its own. Each round takes out one merge key of the graph, which bounds the rounds. -/
def flattenFrom : Nat → NodeId → Nat → List (NodeId × NodeId) → Build Unit
  | 0, _, _, _ => return
  | fuel + 1, id, from_, brought => do
    match ← findMerge id from_ with
    | none => if !brought.isEmpty then setPairs id (brought ++ pairsOf (← node id))
    | some (i, value) =>
      setPairs id ((pairsOf (← node id)).eraseIdx i)
      let more ← merged (fun m => flattenFrom fuel m 0 []) id value
      flattenFrom fuel id i (brought ++ more)

/-- How many pairs the mappings of a graph have: no graph has more merge keys. -/
def pairCount (nodes : Array Node) : Nat :=
  (nodes.toList.map fun n => (pairsOf n).length).foldr (· + ·) 0

/-- Takes the merge keys out of a mapping. -/
def flatten (id : NodeId) : Build Unit := do
  flattenFrom (pairCount (← get).nodes + 1) id 0 []

/-- The text of a node that has to be a scalar. A mapping stands for the scalar under its default
key. -/
def scalarText : Nat → NodeId → Build String
  | 0, _ => return ""
  | fuel + 1, id => do
    let n ← node id
    match n.body with
    | .scalar text => return text
    | .mapping pairs =>
      let nodes := (← get).nodes
      match pairs.find? fun p => (Graph.node nodes p.1).tag = standardTag "value" with
      | some (_, value) => scalarText fuel value
      | none => fail none (.wrongKind .scalar .mapping) n.start
    | .sequence _ => fail none (.wrongKind .scalar .sequence) n.start

/-- The text of a node of a scalar type. -/
def textOf (id : NodeId) : Build String := do scalarText ((← get).nodes.size + 1) id

/-- The value of a node of a scalar type. A point in time is read off the node itself, and not off
the scalar that a mapping stands for. -/
def scalarValue (type : ScalarType) (id : NodeId) : Build Value := do
  let text ← textOf id
  let n ← node id
  if type = .timestamp && n.body.kind = .mapping then throw (.scalar .timestampParts)
  else
    match type.value text with
    | .ok v => return v
    | .error (.value f) => throw (.scalar f)
    | .error (.problem p) => fail none p n.start

/-- What a node becomes. A node is built once, and a container waits to be filled. -/
def build (id : NodeId) : Build Ref := do
  match (← get).built.getD id none with
  | some ref => return ref
  | none =>
    let n ← node id
    let ref ← match ScalarType.ofTag? n.tag, ContainerType.ofTag? n.tag with
      | some type, _ => Ref.leaf <$> scalarValue type id
      | none, some _ => do
        modify fun s => { s with waiting := s.waiting ++ [id] }
        pure (.container id)
      | none, none => fail none (.unknownTag n.tag) n.start
    modify fun s => { s with built := s.built.set! id (some ref) }
    return ref

/-- The key with a value that a node has become. A number that is none is the same key as no other,
but all nodes that call it by its name share it. -/
def keyOf (id : NodeId) (v : Value) : Build Key := do
  match v with
  | .float .nan => return (v, if namesNaN (← textOf id).toList then none else some id)
  | _ => return (v, none)

/-- The entries of a mapping, its merge keys resolved. -/
def entries (id : NodeId) : Build (List (Value × Ref)) := do
  let n ← node id
  match n.body with
  | .mapping _ => do
    flatten id
    let since := some (Activity.mappingValue, some n.start)
    let done ← (pairsOf (← node id)).foldlM (fun done (key, value) => do
      match ← build key with
      | .container _ => fail since .unhashableKey (← node key).start
      | .leaf k =>
        let key ← keyOf key k
        let v ← build value
        return putEntry key v done) []
    return done.map fun e => (e.1.1, e.2)
  | b => fail none (.wrongKind .mapping b.kind) n.start

/-- The pairs of a sequence of mappings that have one item each. -/
def singlePairs (activity : Activity) (id : NodeId) : Build (List (Ref × Ref)) := do
  let n ← node id
  let since := some (activity, some n.start)
  match n.body with
  | .sequence items =>
    items.mapM fun item => do
      let m ← node item
      match m.body with
      | .mapping [(key, value)] =>
        let k ← build key
        let v ← build value
        return (k, v)
      | .mapping pairs => fail since (.notSingleItem pairs.length) m.start
      | b => fail since (.notSingleMapping b.kind) m.start
  | b => fail since (.notSequence b.kind) n.start

/-- Fills the container that a node has become. -/
def fill (id : NodeId) : Build Unit := do
  let n ← node id
  let contents ← match ContainerType.ofTag? n.tag with
    | some .seq =>
      match n.body with
      | .sequence items => Contents.list <$> items.mapM build
      | b => fail none (.wrongKind .sequence b.kind) n.start
    | some .map => Contents.map <$> entries id
    | some .set => (fun es => Contents.set (es.map (·.1))) <$> entries id
    | some .omap => Contents.pairs <$> singlePairs .orderedMap id
    | some .pairs => Contents.pairs <$> singlePairs .pairs id
    | none => pure (Contents.list [])
  modify fun s => { s with contents := s.contents.set! id (some contents) }

/-- Fills the containers that wait, and those that come to wait thereby. Each node waits at most
once. -/
def fillWaiting : Nat → Build Unit
  | 0 => return
  | fuel + 1 => do
    match (← get).waiting with
    | [] => return
    | id :: rest =>
      modify fun s => { s with waiting := rest }
      fill id
      fillWaiting fuel

/-- Builds the root of a graph and everything below it. -/
def buildAll (g : Graph) : Build Ref := do
  let root ← build g.root
  fillWaiting (g.nodes.size + 1)
  return root

end Construction

/-- A document: its containers, and what its root has become. -/
structure Document where
  contents : Array (Option Contents)
  root : Ref

/-- The document of a node graph. -/
def Document.ofGraph (g : Graph) : Except Failure Document := do
  let (root, s) ← (Construction.buildAll g).run (.ofGraph g)
  return ⟨s.contents, root⟩

namespace Document

/-- The tree below a container, given the containers that enclose it. A container that encloses
itself is cut where it occurs again, so no branch is longer than the containers are many. -/
def unfold (d : Document) : Nat → List NodeId → Ref → Value
  | _, _, .leaf v => v
  | 0, _, .container _ => .cycle
  | fuel + 1, path, .container id =>
    if path.contains id then .cycle
    else
      let below := unfold d fuel (id :: path)
      match (d.contents.getD id none).getD (.list []) with
      | .list items => .list (items.map below)
      | .pairs items => .list (items.map fun p => .tuple [below p.1, below p.2])
      | .set items => .set items
      | .map entries => .map (entries.map fun e => (e.1, below e.2))

/-- The tree below a part of the document. -/
def tree (d : Document) (r : Ref) : Value := d.unfold (d.contents.size + 1) [] r

/-- The tree below a part of the document, of which so many levels are opened even where a
container occurs inside itself. -/
def opened (d : Document) : Nat → Ref → Value
  | _, .leaf v => v
  | 0, r => d.tree r
  | levels + 1, .container id =>
    let below := opened d levels
    match (d.contents.getD id none).getD (.list []) with
    | .list items => .list (items.map below)
    | .pairs items => .list (items.map fun p => .tuple [below p.1, below p.2])
    | .set items => .set items
    | .map entries => .map (entries.map fun e => (e.1, below e.2))

/-- The document as a tree. -/
def value (d : Document) : Value := d.tree d.root

/-- The part of a mapping under a string key. -/
def under (d : Document) (key : String) (r : Ref) : Option Ref :=
  match r with
  | .leaf _ => none
  | .container id =>
    match d.contents.getD id none with
    | some (.map entries) =>
      (entries.find? fun e => match e.1 with
        | .str s => s = key
        | _ => false).map (·.2)
    | _ => none

/-- The item of a list. -/
def item (d : Document) (i : Nat) (r : Ref) : Option Ref :=
  match r with
  | .leaf _ => none
  | .container id =>
    match d.contents.getD id none with
    | some (.list items) => items[i]?
    | _ => none

end Document

/-- The documents of a text, of which the empty ones count as null, up to the first failure. -/
def documents (text : String) : Except Failure (List Document) := do
  let gs := Graphs.ofText text.toList
  let docs ← gs.graphs.mapM Document.ofGraph
  match gs.failure with
  | some f => throw f
  | none => return docs

/-- The document of a text that holds at most one; a text without one holds null. -/
def document (text : String) : Except Failure Document := do
  match ← Graph.ofText? text.toList with
  | none => return ⟨#[], .leaf .null⟩
  | some g => Document.ofGraph g

end ManifestPolicy.Yaml
