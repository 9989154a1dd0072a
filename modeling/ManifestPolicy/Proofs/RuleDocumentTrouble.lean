import ManifestPolicy.Proofs.ConstructionFaults
import ManifestPolicy.Proofs.Outcome
import ManifestPolicy.Proofs.ScanningFaults
import ManifestPolicy.Rule.Document

/-!
# What can become of a rule document

A rule document that is no rule set is refused with a failure of its own
sort: its text is no YAML, or its tree has not the form of a rule set. There
are two ways past these. A scalar may be refused for its value, and such a
refusal has no place in the text; and the root may have a key that is no
string, which is found out after it is known to have a list of rules and
before the rules are looked at. Both end in a mishap, and no other mishap is
possible (`RuleSet.parse_trouble`).

For the second way the tree of a document is compared with its containers: a
tree is cut where a container occurs again, but at the root and one level
below it the tree that is checked is never cut.

A set of conditions is refused unless it is empty, and in the same words whatever
the order in which its items are looked at (`Condition.checkAll_set`).
-/

namespace ManifestPolicy

/-! ## Sets -/

/-- As many items, all refused for the same, are refused in the same words. -/
theorem Checked.items_alike {α β : Type} {check : α → Checked β} {is : List Issue}
    {as as' : List α} (h : ∀ a ∈ as, check a = .error is) (h' : ∀ a ∈ as', check a = .error is)
    (hlength : as.length = as'.length) (n : Nat) : items check n as = items check n as' := by
  induction as generalizing as' n with
  | nil =>
      obtain rfl := List.eq_nil_of_length_eq_zero hlength.symm
      rfl
  | cons a as ih =>
      cases as' with
      | nil => cases hlength
      | cons a' as' =>
          obtain ⟨ha, has⟩ := List.forall_mem_cons.1 h
          obtain ⟨ha', has'⟩ := List.forall_mem_cons.1 h'
          rw [items, items, ha, ha', ih has has' (Nat.succ.inj hlength)]

/-- No item of a set is a mapping, as a condition has to be: their order makes no difference. -/
theorem Condition.checkAll_set {vs vs' : List Value} (hperm : vs.Perm vs')
    (h : ∀ v ∈ vs, ∀ entries, v ≠ .map entries) :
    Condition.checkAll (.set vs) = Condition.checkAll (.set vs') := by
  have hrefused {v : Value} (hv : ∀ entries, v ≠ .map entries) :
      Condition.check v = .error [⟨[], .notModel "Condition"⟩] := by
    cases v with
    | map entries => exact absurd rfl (hv entries)
    | _ => rfl
  show Checked.items Condition.check 0 vs = Checked.items Condition.check 0 vs'
  exact Checked.items_alike (fun v hv => hrefused (h v hv))
    (fun v hv => hrefused (h v (hperm.mem_iff.2 hv))) hperm.length_eq 0

namespace Yaml

/-- A scalar is refused while its text is scanned, or for what stands in the graph. -/
theorem document_scalar {text : String} {f : ScalarFault}
    (h : document text = .error (.scalar f)) :
    f.OfText ∨ ∃ g, Graph.ofText? text.toList = .ok (some g) ∧ g.Refuses f := by
  unfold document at h
  cases hg : Graph.ofText? text.toList with
  | error e =>
      rw [hg] at h
      cases h
      exact .inl (Graph.textual_ofText _ _ hg)
  | ok found =>
      rw [hg] at h
      cases found with
      | none => cases h
      | some g => exact .inr ⟨g, rfl, ofGraph_scalar h⟩

namespace Document

variable {d : Document} {below : Ref → Value} {r : Ref}

/-- What a container holds: nothing until it is filled. -/
def held (d : Document) (id : NodeId) : Contents := (d.contents.getD id none).getD (.list [])

/-- A level of the tree. -/
def level (below : Ref → Value) : Contents → Value
  | .list items => .list (items.map below)
  | .pairs items => .list (items.map fun p => .tuple [below p.1, below p.2])
  | .set items => .set items
  | .map entries => .map (entries.map fun e => (e.1, below e.2))

/-- The entries of a mapping. -/
def entries? (d : Document) : Ref → Option (List (Value × Ref))
  | .leaf (.map es) => some (es.map fun e => (e.1, .leaf e.2))
  | .leaf _ => none
  | .container id =>
    match d.held id with
    | .map entries => some entries
    | _ => none

/-- What is a list in the tree. -/
def isList (d : Document) : Ref → Bool
  | .leaf (.list _) => true
  | .leaf _ => false
  | .container id =>
    match d.held id with
    | .list _ | .pairs _ => true
    | .set _ | .map _ => false

/-- The part under a string key. -/
def part? (key : String) (entries : List (Value × Ref)) : Option Ref :=
  (entries.find? fun e => match e.1 with
    | .str s => s = key
    | _ => false).map (·.2)

/-- The root is a mapping with a list of rules, and with a key that is no string. -/
def HasOddKey (d : Document) : Prop :=
  ∃ entries r, d.entries? d.root = some entries ∧ part? "rules" entries = some r ∧
    d.isList r = true ∧ ∃ e ∈ entries, e.1.isString = false

theorem part?_map (key : String) (entries : List (Value × Ref)) :
    Value.entry? key (entries.map fun e => (e.1, below e.2)) =
      (part? key entries).map below := by
  unfold Value.entry? part?
  rw [List.find?_map, Option.map_map, Option.map_map]
  rfl

theorem exists_mem_of_part? {key : String} {entries : List (Value × Ref)}
    (h : part? key entries = some r) : ∃ e ∈ entries, e.2 = r := by
  obtain ⟨e, he, hr⟩ := Option.map_eq_some_iff.1 h
  exact ⟨e, List.mem_of_find?_eq_some he, hr⟩

end Document

end Yaml

open Yaml (Document)

/-- The tree is a mapping with a list of rules, and with a key that is no string. -/
def Value.HasOddKey (tree : Value) : Prop :=
  ∃ entries, rulesEntries? tree = some entries ∧ (entries.all fun e => e.1.isString) = false

namespace Yaml.Document

variable {d : Document} {below : Ref → Value}

theorem rulesEntries?_map {es es' : List (Value × Value)} :
    rulesEntries? (.map es) = some es' ↔
      es' = es ∧ ∃ items, Value.entry? "rules" es = some (.list items) := by
  unfold rulesEntries?
  split
  · next entries heq =>
      cases heq
      split
      · next items hitems => simp [hitems, eq_comm]
      · next hother => exact iff_of_false nofun fun ⟨_, items, h⟩ => hother items h
  · next hother => exact absurd rfl (hother es)

/-- A tree of the document in which the root and the parts just below it are not cut. -/
structure Shows (d : Document) (below : Ref → Value) (tree : Value) : Prop where
  map : ∀ entries, d.entries? d.root = some entries →
    tree = .map (entries.map fun e => (e.1, below e.2))
  other : d.entries? d.root = none → ∀ entries, tree ≠ .map entries
  list : ∀ entries, d.entries? d.root = some entries → ∀ e ∈ entries,
    ((∃ items, below e.2 = .list items) ↔ d.isList e.2 = true)

theorem Shows.hasOddKey_iff {tree : Value} (h : d.Shows below tree) :
    tree.HasOddKey ↔ d.HasOddKey := by
  cases hroot : d.entries? d.root with
  | none =>
      have htree : rulesEntries? tree = none := by
        unfold rulesEntries?
        split
        · next entries => exact absurd rfl (h.other hroot entries)
        · rfl
      simp [Value.HasOddKey, HasOddKey, hroot, htree]
  | some entries =>
      rw [h.map entries hroot]
      constructor
      · rintro ⟨es, hes, hodd⟩
        obtain ⟨rfl, items, hitems⟩ := rulesEntries?_map.1 hes
        rw [part?_map] at hitems
        obtain ⟨r, hr, hbelow⟩ := Option.map_eq_some_iff.1 hitems
        obtain ⟨e, he, her⟩ := exists_mem_of_part? hr
        have hlist := (h.list entries hroot e he).1 ⟨items, her ▸ hbelow⟩
        exact ⟨entries, r, hroot, hr, her ▸ hlist, by simpa using hodd⟩
      · rintro ⟨entries', r, hentries, hr, hlist, hodd⟩
        rw [hroot] at hentries
        cases hentries
        obtain ⟨e, he, her⟩ := exists_mem_of_part? hr
        obtain ⟨items, hbelow⟩ := (h.list entries hroot e he).2 (her ▸ hlist)
        refine ⟨_, rulesEntries?_map.2 ⟨rfl, items, ?_⟩, by simpa using hodd⟩
        rw [part?_map, hr, ← hbelow, her]
        rfl

theorem opened_container (n : Nat) (id : NodeId) :
    d.opened (n + 1) (.container id) = level (d.opened n) (d.held id) := by
  unfold opened level held
  rfl

theorem unfold_container (n : Nat) (path : List NodeId) (id : NodeId) :
    d.unfold (n + 1) path (.container id) =
      if path.contains id then .cycle else level (d.unfold n (id :: path)) (d.held id) := by
  rw [unfold]
  split
  · rfl
  · unfold level held
    rfl

theorem isList_container (id : NodeId) :
    (∃ items, level below (d.held id) = .list items) ↔ d.isList (.container id) = true := by
  cases hheld : d.held id <;> simp [level, isList, hheld]

theorem shows_level {tree : Value} (hleaf : ∀ v, below (.leaf v) = v)
    (hroot : tree = match d.root with
      | .leaf v => v
      | .container id => level below (d.held id))
    (hlist : ∀ entries, d.entries? d.root = some entries → ∀ e ∈ entries,
      ((∃ items, below e.2 = .list items) ↔ d.isList e.2 = true)) :
    d.Shows below tree where
  map entries h := by
    rw [hroot]
    cases hr : d.root with
    | leaf v =>
        rw [hr] at h
        cases v with
        | map es =>
            cases h
            simp [Function.comp_def, hleaf]
        | _ => cases h
    | container id =>
        simp only [hr, entries?] at h
        dsimp only
        split at h
        · next es hheld =>
            cases h
            rw [hheld, level]
        · cases h
  other h entries := by
    rw [hroot]
    cases hr : d.root with
    | leaf v =>
        rw [hr] at h
        rintro rfl
        cases h
    | container id =>
        simp only [hr, entries?] at h
        dsimp only
        split at h
        · cases h
        · next hother =>
            unfold level
            cases hheld : d.held id with
            | map es => exact absurd hheld (hother es)
            | _ => simp
  list := hlist

theorem opened_list (n : Nat) (r : Ref) :
    (∃ items, d.opened (n + 1) r = .list items) ↔ d.isList r = true := by
  cases r with
  | leaf v => cases v <;> simp [opened, isList]
  | container id =>
      rw [opened_container]
      exact isList_container id

theorem shows_opened (n : Nat) : d.Shows (d.opened (n + 1)) (d.opened (n + 2) d.root) := by
  refine shows_level (fun v => by rw [opened]) ?_ fun _ _ e _ => opened_list n e.2
  cases d.root with
  | leaf v => rw [opened]
  | container id => exact opened_container (n + 1) id

/-- What is cut is a cycle. -/
theorem unfold_list {n : Nat} {path : List NodeId} {r : Ref}
    (h : (d.unfold n path r).isCyclic = false) :
    (∃ items, d.unfold n path r = .list items) ↔ d.isList r = true := by
  cases r with
  | leaf v =>
      rw [unfold]
      cases v <;> simp [isList]
  | container id =>
      cases n with
      | zero =>
          rw [unfold] at h
          cases h
      | succ n =>
          rw [unfold_container] at h ⊢
          split at h
          · cases h
          · next hpath =>
              rw [if_neg hpath]
              exact isList_container id

theorem isCyclic_of_mem {es : List (Value × Value)} (h : (Value.map es).isCyclic = false)
    {e : Value × Value} (he : e ∈ es) : e.2.isCyclic = false := by
  rw [Value.isCyclic] at h
  induction es with
  | nil => cases he
  | cons e' es ih =>
      simp only [Value.anyCyclicEntry, Bool.or_eq_false_iff] at h
      cases he with
      | head => exact h.1.2
      | tail _ he => exact ih h.2 he

theorem shows_value (h : d.value.isCyclic = false) : ∃ below, d.Shows below d.value := by
  unfold value tree at h ⊢
  cases hroot : d.root with
  | leaf v =>
      refine ⟨d.opened 1, shows_level (fun v => by rw [opened]) ?_ fun _ _ e _ => opened_list 0 e.2⟩
      rw [hroot, unfold]
  | container id =>
      have htree : d.unfold (d.contents.size + 1) [] (.container id) =
          level (d.unfold d.contents.size [id]) (d.held id) := unfold_container _ [] id
      rw [hroot, htree] at h
      refine ⟨d.unfold d.contents.size [id], shows_level (fun v => by rw [unfold]) ?_ ?_⟩
      · rw [hroot, htree]
      · intro entries hentries e he
        simp only [hroot, entries?] at hentries
        split at hentries
        · next es hheld =>
            cases hentries
            rw [hheld] at h
            exact unfold_list (isCyclic_of_mem h (List.mem_map_of_mem he))
        · cases hentries

end Yaml.Document

namespace RuleSet

variable {source : String} {tree : Value}

theorem ofTree_mishap {m : Mishap} :
    ofTree source tree = .error (.mishap m) ↔ m = .argumentNames ∧ tree.HasOddKey := by
  unfold ofTree Value.HasOddKey
  cases rulesEntries? tree with
  | none => simp
  | some entries =>
      dsimp only
      cases hall : entries.all fun e => e.1.isString with
      | false =>
          refine ⟨fun h => ?_, fun h => ?_⟩
          · cases h
            exact ⟨rfl, entries, rfl, hall⟩
          · rw [h.1]
            rfl
      | true =>
          have hodd : ¬ ∃ es, some entries = some es ∧ (es.all fun e => e.1.isString) = false := by
            rintro ⟨es, h, hes⟩
            cases h
            rw [hall] at hes
            cases hes
          refine iff_of_false (fun h => ?_) fun h => hodd h.2
          rw [if_neg (by simp)] at h
          split at h <;> cases h

theorem ofTree_failure {f : ManifestPolicy.Failure} (h : ofTree source tree = .error (.failure f)) :
    f.cls = .schema := by
  unfold ofTree at h
  split at h
  · cases h
    rfl
  · split at h
    · cases h
    · split at h
      · cases h
      · cases h
        rfl

/-- The trouble with a document is that with a tree that shows its root. -/
theorem ofDocument_error (source : String) (d : Document) :
    ∃ tree, (tree.HasOddKey ↔ d.HasOddKey) ∧
      ∀ t, ofDocument source d = .error t ↔ ofTree source tree = .error t := by
  unfold ofDocument
  dsimp only
  split
  · refine ⟨_, (Document.shows_opened 4).hasOddKey_iff, fun t => ?_⟩
    exact map_eq_error
  · next hcyclic =>
      obtain ⟨below, hshows⟩ := Document.shows_value (by simpa using hcyclic)
      exact ⟨_, hshows.hasOddKey_iff, fun _ => Iff.rfl⟩

/-- What a rule document comes to, if it is no rule set. A text that is no YAML is refused as such,
and so is a tree that has not the form of a rule set. There are mishaps of two sorts: a scalar is
refused for its value, which is met while the text is scanned, or is that of a scalar whose text
does not fit the type that a tag names; or there is a list of rules, and beside it a key that is no
string. -/
theorem parse_trouble (source text : String) :
    (∀ m, parse source text = .error (.mishap m) ↔
      (∃ f, Yaml.document text = .error (.scalar f) ∧ m = .scalar f) ∨
      ∃ d, Yaml.document text = .ok d ∧ d.HasOddKey ∧ m = .argumentNames) ∧
    (∀ f, parse source text = .error (.failure f) →
      (∃ e, Yaml.document text = .error e ∧ e.isFormal = true ∧ f.cls = .parse) ∨
      ∃ d, Yaml.document text = .ok d ∧ f.cls = .schema) ∧
    ∀ f, Yaml.document text = .error (.scalar f) →
      f.OfText ∨ ∃ g, Yaml.Graph.ofText? text.toList = .ok (some g) ∧ g.Refuses f := by
  refine ⟨fun m => ?_, fun f h => ?_, fun f => Yaml.document_scalar⟩
  · unfold parse
    cases Yaml.document text with
    | error e => cases e <;> simp [eq_comm]
    | ok d =>
        obtain ⟨tree, hodd, herror⟩ := ofDocument_error source d
        dsimp only
        rw [herror, ofTree_mishap, hodd]
        simp [and_comm]
  · unfold parse at h
    cases hd : Yaml.document text with
    | error e =>
        rw [hd] at h
        cases e with
        | scalar => cases h
        | character c position =>
            cases h
            exact .inl ⟨_, rfl, rfl, rfl⟩
        | fault e =>
            cases h
            exact .inl ⟨_, rfl, rfl, rfl⟩
    | ok d =>
        obtain ⟨tree, _, herror⟩ := ofDocument_error source d
        rw [hd] at h
        exact .inr ⟨d, rfl, ofTree_failure ((herror _).1 h)⟩

/-- A date that is none, though it stands beside the rules and nothing looks at it. -/
theorem stray_date_is_mishap :
    parse "<string>" "rules: []\nx: 2024-13-01\n" =
      .error (.mishap (.scalar (.calendar .month))) := by
  decide +kernel

end RuleSet

end ManifestPolicy
