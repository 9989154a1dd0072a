import Mathlib.Data.List.Basic
import ManifestPolicy.Yaml.Construction

/-!
# The faults of a construction

A construction walks over the nodes of a graph and changes them while it does:
merge keys are taken out of mappings, and default keys become ordinary
strings. Neither brings a new text into the graph, nor a tag but that of
strings (`Within`), and strings are never refused. So a value that is refused
is refused for what stood in the graph: a scalar type that the tag of a node
names, and the text of a scalar, or that the node is a mapping
(`Construction.ends_buildAll`, `ofGraph_scalar`).

The functions of a construction are taken one by one, in the order of their
definitions, by rules for the ways in which they are put together (`Ends`).
-/

namespace ManifestPolicy.Yaml

/-- A node names a scalar type, and the type refuses the text of a scalar; or a node names the type
of points in time, and is a mapping. The text is empty if there is none, where a mapping stands for
itself. -/
def Graph.Refuses (g : Graph) (f : ScalarFault) : Prop :=
  ∃ n ∈ g.nodes, ∃ type, ScalarType.ofTag? n.tag = some type ∧
    ((∃ text, (text = "" ∨ ∃ m ∈ g.nodes, m.body = .scalar text) ∧
        type.value text = .error (.value f)) ∨
      type = .timestamp ∧ f = .timestampParts)

/-- A fault with a place, or the refusal of a scalar of the graph. -/
def Failure.OfGraph (g : Graph) : Failure → Prop
  | .scalar f => g.Refuses f
  | _ => True

namespace Construction

/-- A node that has its tag and its text from the graph, but for the tag of strings. -/
structure Within (g : Graph) (n : Node) : Prop where
  tag : n.tag = standardTag "str" ∨ n.tag = "" ∨ ∃ m ∈ g.nodes, m.tag = n.tag
  text : ∀ text, n.body = .scalar text → text = "" ∨ ∃ m ∈ g.nodes, m.body = .scalar text

/-- Every node of the construction is of that sort. -/
def Inv (g : Graph) (s : Construction) : Prop := ∀ id, Within g (Graph.node s.nodes id)

/-- A step that starts with such nodes ends with such nodes and a good result, or for a good
reason. -/
def Ends {α : Type} (g : Graph) (Q : α → Prop) (m : Build α) : Prop :=
  ∀ s, Inv g s → match m s with
    | .ok (a, s') => Q a ∧ Inv g s'
    | .error f => f.OfGraph g

/-- A step that ends so whatever its result is. -/
abbrev Keeps {α : Type} (g : Graph) (m : Build α) : Prop := Ends g (fun _ => True) m

section

variable {α β : Type} {g : Graph} {Q : α → Prop} {R : β → Prop} {m : Build α}

theorem Ends.pure {a : α} (h : Q a) : Ends g Q (pure a) := fun _ hs => ⟨h, hs⟩

theorem Ends.bind {f : α → Build β} (h : Ends g Q m) (hf : ∀ a, Q a → Ends g R (f a)) :
    Ends g R (m >>= f) := by
  intro s hs
  have hm := h s hs
  show match (m s >>= fun p => f p.1 p.2) with
    | .ok (b, s') => R b ∧ Inv g s'
    | .error f => f.OfGraph g
  cases hr : m s with
  | error e => rwa [hr] at hm
  | ok p =>
      rw [hr] at hm
      exact hf p.1 hm.1 p.2 hm.2

theorem Ends.map {f : α → β} (h : Ends g Q m) : Keeps g (f <$> m) := by
  rw [map_eq_pure_bind]
  exact h.bind fun a _ => .pure trivial

theorem Ends.mono {Q' : α → Prop} (h : Ends g Q m) (hq : ∀ a, Q a → Q' a) : Ends g Q' m := by
  intro s hs
  have hm := h s hs
  cases hr : m s with
  | error e => rwa [hr] at hm
  | ok p =>
      rw [hr] at hm
      exact ⟨hq _ hm.1, hm.2⟩

theorem ends_get : Ends g (Inv g) get := fun _ hs => ⟨hs, hs⟩

theorem ends_modify {f : Construction → Construction} (h : ∀ s, Inv g s → Inv g (f s)) :
    Keeps g (modify f) := fun s hs => ⟨trivial, h s hs⟩

theorem ends_fail (context : Option (Activity × Option Mark)) (p : Problem) (m : Mark) :
    Ends g Q (fail context p m) := fun _ _ => trivial

theorem ends_mapM {f : α → Build β} (h : ∀ a, Ends g R (f a)) (as : List α) :
    Keeps g (as.mapM f) := by
  induction as with
  | nil => exact .pure trivial
  | cons a as ih =>
      rw [List.mapM_cons]
      exact (h a).bind fun b _ => ih.bind fun bs _ => .pure trivial

theorem ends_foldlM {f : β → α → Build β} (h : ∀ b a, Keeps g (f b a))
    (as : List α) (b : β) : Keeps g (as.foldlM f b) := by
  induction as generalizing b with
  | nil => exact .pure trivial
  | cons a as ih =>
      rw [List.foldlM_cons]
      exact (h b a).bind fun b' _ => ih b'

end

variable {g : Graph}

theorem ends_node (id : NodeId) : Ends g (Within g) (node id) :=
  ends_get.bind fun _ hs => .pure (hs id)

/-- Nodes may be changed one by one. -/
theorem within_modify {nodes : Array Node} (h : ∀ i, Within g (Graph.node nodes i))
    {f : Node → Node} (hf : ∀ n, Within g n → Within g (f n)) (id i : NodeId) :
    Within g (Graph.node (nodes.modify id f) i) := by
  have hi := h i
  unfold Graph.node at hi ⊢
  rw [Array.getElem?_modify]
  split
  · cases hn : nodes[i]? with
    | none => rwa [hn] at hi
    | some n =>
        rw [hn] at hi
        exact hf n hi
  · exact hi

theorem ends_setPairs (id : NodeId) (pairs : List (NodeId × NodeId)) :
    Keeps g (setPairs id pairs) := by
  refine ends_modify fun s hs => within_modify (f := fun n => { n with body := _ }) hs ?_ id
  exact fun n hn => ⟨hn.tag, fun _ h => nomatch h⟩

theorem ends_retag (id : NodeId) : Keeps g (retag id) := by
  refine ends_modify fun s hs => within_modify (f := fun n => { n with tag := _ }) hs ?_ id
  exact fun n hn => ⟨.inl rfl, hn.text⟩

theorem ends_findMerge (id : NodeId) (from_ : Nat) :
    Keeps g (findMerge id from_) := by
  have hgo (i : Nat) (pairs : List (NodeId × NodeId)) :
      Keeps g (findMerge.go i pairs) := by
    induction pairs generalizing i with
    | nil => exact .pure trivial
    | cons p pairs ih =>
        refine (ends_node p.1).bind fun k _ => ?_
        split
        · exact .pure trivial
        · dsimp only
          split
          · exact (ends_retag p.1).bind fun _ _ => ih (i + 1)
          · exact ih (i + 1)
  exact (ends_node id).bind fun n _ => hgo from_ _

theorem ends_merged {flatten : NodeId → Build Unit} (h : ∀ i, Keeps g (flatten i))
    (id value : NodeId) : Keeps g (merged flatten id value) := by
  refine (ends_node id).bind fun n _ => (ends_node value).bind fun v _ => ?_
  split
  · exact (h value).bind fun _ _ => (ends_node value).bind fun _ _ => .pure trivial
  · refine (ends_mapM (R := fun _ => True) (fun item => ?_) _).bind fun _ _ => .pure trivial
    refine (ends_node item).bind fun m _ => ?_
    split
    · exact (h item).bind fun _ _ => (ends_node item).bind fun _ _ => .pure trivial
    · exact ends_fail _ _ _
  · exact ends_fail _ _ _

theorem ends_flattenFrom (fuel : Nat) (id : NodeId) (from_ : Nat)
    (brought : List (NodeId × NodeId)) :
    Keeps g (flattenFrom fuel id from_ brought) := by
  induction fuel generalizing id from_ brought with
  | zero => exact .pure trivial
  | succ fuel ih =>
      refine (ends_findMerge id from_).bind fun found _ => ?_
      cases found with
      | none =>
          show Ends g _ (if _ then _ else _)
          split
          · exact (ends_node id).bind fun _ _ => ends_setPairs id _
          · exact .pure trivial
      | some p =>
          refine (ends_node id).bind fun _ _ => (ends_setPairs id _).bind fun _ _ => ?_
          exact (ends_merged (fun m => ih m 0 []) id p.2).bind fun more _ => ih id p.1 _

theorem ends_flatten (id : NodeId) : Keeps g (flatten id) :=
  ends_get.bind fun _ _ => ends_flattenFrom _ id 0 []

theorem ends_scalarText (fuel : Nat) (id : NodeId) :
    Ends g (fun text => text = "" ∨ ∃ m ∈ g.nodes, m.body = .scalar text)
      (scalarText fuel id) := by
  induction fuel generalizing id with
  | zero => exact .pure (.inl rfl)
  | succ fuel ih =>
      refine (ends_node id).bind fun n hn => ?_
      split
      · next text htext => exact .pure (hn.text text htext)
      · refine ends_get.bind fun s _ => ?_
        dsimp only
        split
        · exact ih _
        · exact ends_fail _ _ _
      · exact ends_fail _ _ _

theorem ends_textOf (id : NodeId) :
    Ends g (fun text => text = "" ∨ ∃ m ∈ g.nodes, m.body = .scalar text) (textOf id) :=
  ends_get.bind fun _ _ => ends_scalarText _ id

theorem ends_scalarValue {type : ScalarType}
    (htype : type = .str ∨ ∃ n ∈ g.nodes, ScalarType.ofTag? n.tag = some type) (id : NodeId) :
    Keeps g (scalarValue type id) := by
  refine (ends_textOf id).bind fun text htext => (ends_node id).bind fun _ _ => ?_
  show Ends g _ (if _ then _ else _)
  split
  · next hparts =>
      intro s hs
      have htime : type = .timestamp := by
        rw [Bool.and_eq_true, decide_eq_true_eq] at hparts
        exact hparts.1
      subst htime
      rcases htype with hstr | ⟨n, hn, htag⟩
      · cases hstr
      · exact ⟨n, hn, _, htag, .inr ⟨rfl, rfl⟩⟩
  · split
    · exact .pure trivial
    · next f hf =>
        intro s hs
        obtain rfl | ⟨n, hn, htag⟩ := htype
        · cases hf
        · exact ⟨n, hn, type, htag, .inl ⟨text, htext, hf⟩⟩
    · exact ends_fail _ _ _

/-- A node's tag names a type that some node of the graph has, or that of strings. -/
theorem Within.type {n : Node} (h : Within g n) {type : ScalarType}
    (htype : ScalarType.ofTag? n.tag = some type) :
    type = .str ∨ ∃ m ∈ g.nodes, ScalarType.ofTag? m.tag = some type := by
  obtain htag | htag | ⟨m, hm, htag⟩ := h.tag
  · rw [htag, show ScalarType.ofTag? (standardTag "str") = some .str by decide] at htype
    exact .inl (Option.some.inj htype).symm
  · rw [htag, show ScalarType.ofTag? "" = none by decide] at htype
    cases htype
  · exact .inr ⟨m, hm, htag ▸ htype⟩

theorem ends_build (id : NodeId) : Keeps g (build id) := by
  refine ends_get.bind fun s _ => ?_
  split
  · exact .pure trivial
  · refine (ends_node id).bind fun n hn => ?_
    have hput (ref : Ref) : Keeps g (do
        modify fun t : Construction => { t with built := t.built.set! id (some ref) }
        return ref) := by
      refine Ends.bind (ends_modify fun _ hs => hs) fun _ _ => ?_
      exact .pure trivial
    dsimp only
    split
    · next type htype =>
        exact (ends_scalarValue (hn.type htype) id).map.bind fun ref _ => hput ref
    · refine Ends.bind (ends_modify fun _ hs => hs) fun _ _ => ?_
      exact hput _
    · exact (ends_fail (Q := fun _ => True) _ _ _).bind fun ref _ => hput ref

theorem ends_keyOf (id : NodeId) (v : Value) : Keeps g (keyOf id v) := by
  unfold keyOf
  split
  · exact (ends_textOf id).bind fun _ _ => .pure trivial
  · exact .pure trivial

theorem ends_entries (id : NodeId) : Keeps g (entries id) := by
  refine (ends_node id).bind fun n _ => ?_
  split
  · refine (ends_flatten id).bind fun _ _ => (ends_node id).bind fun n' _ => ?_
    refine (ends_foldlM (fun done p => ?_) _ []).bind fun _ _ => .pure trivial
    refine (ends_build p.1).bind fun k _ => ?_
    split
    · exact (ends_node p.1).bind fun _ _ => ends_fail _ _ _
    · exact (ends_keyOf p.1 _).bind fun _ _ => (ends_build p.2).bind fun _ _ => .pure trivial
  · exact ends_fail _ _ _

theorem ends_singlePairs (activity : Activity) (id : NodeId) :
    Keeps g (singlePairs activity id) := by
  refine (ends_node id).bind fun n _ => ?_
  dsimp only
  split
  · refine ends_mapM (R := fun _ => True) (fun item => (ends_node item).bind fun m _ => ?_) _
    split
    · exact (ends_build _).bind fun _ _ => (ends_build _).bind fun _ _ => .pure trivial
    · exact ends_fail _ _ _
    · exact ends_fail _ _ _
  · exact ends_fail _ _ _

theorem ends_fill (id : NodeId) : Keeps g (fill id) := by
  refine (ends_node id).bind fun n _ => ?_
  have hput (contents : Contents) : Keeps g (modify fun s : Construction =>
      { s with contents := s.contents.set! id (some contents) }) := ends_modify fun _ hs => hs
  dsimp only
  split
  · split
    · exact (ends_mapM ends_build _).map.bind fun c _ => hput c
    · exact (ends_fail (Q := fun _ => True) _ _ _).bind fun c _ => hput c
  · exact (ends_entries id).map.bind fun c _ => hput c
  · exact (ends_entries id).map.bind fun c _ => hput c
  · exact (ends_singlePairs _ id).map.bind fun c _ => hput c
  · exact (ends_singlePairs _ id).map.bind fun c _ => hput c
  · exact hput _

theorem ends_fillWaiting (fuel : Nat) : Keeps g (fillWaiting fuel) := by
  induction fuel with
  | zero => exact .pure trivial
  | succ fuel ih =>
      refine ends_get.bind fun s _ => ?_
      split
      · exact .pure trivial
      · refine Ends.bind (ends_modify fun _ hs => hs) fun _ _ => ?_
        exact (ends_fill _).bind fun _ _ => ih

theorem ends_buildAll : Keeps g (buildAll g) :=
  (ends_build g.root).bind fun _ _ => (ends_fillWaiting _).bind fun _ _ => .pure trivial

theorem inv_ofGraph : Inv g (.ofGraph g) := by
  intro id
  show Within g (Graph.node g.nodes id)
  unfold Graph.node
  cases hn : g.nodes[id]? with
  | none => exact ⟨.inr (.inl rfl), fun text h => .inl (by injection h with h; exact h.symm)⟩
  | some n =>
      have hmem : n ∈ g.nodes := Array.mem_of_getElem? hn
      exact ⟨.inr (.inr ⟨n, hmem, rfl⟩), fun text h => .inr ⟨n, hmem, h⟩⟩

end Construction

/-- A value that is refused is refused for a tag and a text of the graph. -/
theorem ofGraph_scalar {g : Graph} {f : ScalarFault}
    (h : Document.ofGraph g = .error (.scalar f)) : g.Refuses f := by
  have hends := Construction.ends_buildAll _ (Construction.inv_ofGraph (g := g))
  unfold Document.ofGraph StateT.run at h
  cases hr : Construction.buildAll g (.ofGraph g) with
  | ok p =>
      rw [hr] at h
      cases h
  | error e =>
      rw [hr] at h hends
      cases h
      exact hends

end ManifestPolicy.Yaml
