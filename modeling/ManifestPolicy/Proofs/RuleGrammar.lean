import ManifestPolicy.Proofs.RuleDocumentTrouble
import ManifestPolicy.Proofs.SettingsAccepted

/-!
# The grammar of rule documents

A tree writes a rule set if it is a mapping with a list of rules, each of
which is a mapping that writes a rule, and so on down to the fields of the
conditions; other entries may stand beside these. `Written` says so level by
level, together with what is written.

The checks go down the tree in the same way, and so each of them is settled
by the one below it: a check accepts a plain value as a rule exactly if the
value writes that rule. What the rule document comes to is then known for
every plain tree: the rule set that is written, or a refusal
(`RuleSet.parse_eq_ok_iff_written`).

Plain trees leave out what a check would take for something else: bytes for
a string, a tuple or a set for a list.
-/

namespace ManifestPolicy

open Checked

namespace Value

mutual

/-- Whether a tree is made of null, booleans, numbers, strings, lists, and
mappings whose keys are strings. -/
def isPlain : Value → Bool
  | .null | .bool _ | .int _ | .float _ | .str _ => true
  | .list items => allPlain items
  | .map entries => allPlainEntries entries
  | .bytes _ | .date _ | .time _ | .tuple _ | .set _ | .cycle => false

def allPlain : List Value → Bool
  | [] => true
  | v :: vs => v.isPlain && allPlain vs

def allPlainEntries : List (Value × Value) → Bool
  | [] => true
  | (k, v) :: es => k.isString && v.isPlain && allPlainEntries es

end

theorem isPlain_of_mem {items : List Value} (h : (Value.list items).isPlain = true) {v : Value}
    (hv : v ∈ items) : v.isPlain = true := by
  rw [isPlain] at h
  induction items with
  | nil => cases hv
  | cons w ws ih =>
      rw [allPlain, Bool.and_eq_true] at h
      rcases List.mem_cons.1 hv with rfl | hv
      · exact h.1
      · exact ih h.2 hv

theorem isPlain_of_entry {entries : List (Value × Value)}
    (h : (Value.map entries).isPlain = true) {e : Value × Value} (he : e ∈ entries) :
    e.1.isString = true ∧ e.2.isPlain = true := by
  rw [isPlain] at h
  induction entries with
  | nil => cases he
  | cons e' es ih =>
      rw [allPlainEntries, Bool.and_eq_true, Bool.and_eq_true] at h
      rcases List.mem_cons.1 he with rfl | he
      · exact h.1
      · exact ih h.2 he

theorem isPlain_of_entry? {key : String} {entries : List (Value × Value)} {v : Value}
    (h : (Value.map entries).isPlain = true) (hv : entry? key entries = some v) :
    v.isPlain = true := by
  obtain ⟨e, he, rfl⟩ := Option.map_eq_some_iff.1 hv
  exact (isPlain_of_entry h (List.mem_of_find?_eq_some he)).2

mutual

/-- Nothing is cut in a plain tree. -/
theorem isCyclic_of_isPlain (v : Value) (h : v.isPlain = true) : v.isCyclic = false := by
  match v with
  | .list items =>
      rw [isPlain] at h
      rw [isCyclic]
      exact anyCyclic_of_allPlain items h
  | .map entries =>
      rw [isPlain] at h
      rw [isCyclic]
      exact anyCyclicEntry_of_allPlain entries h
  | .null | .bool _ | .int _ | .float _ | .str _ => rfl
  | .bytes _ | .date _ | .time _ | .tuple _ | .set _ | .cycle => cases h

theorem anyCyclic_of_allPlain (vs : List Value) (h : allPlain vs = true) :
    anyCyclic vs = false := by
  match vs with
  | [] => rfl
  | v :: vs =>
      rw [allPlain, Bool.and_eq_true] at h
      rw [anyCyclic, isCyclic_of_isPlain v h.1, anyCyclic_of_allPlain vs h.2]
      rfl

theorem anyCyclicEntry_of_allPlain (es : List (Value × Value)) (h : allPlainEntries es = true) :
    anyCyclicEntry es = false := by
  match es with
  | [] => rfl
  | (.str s, v) :: es =>
      rw [allPlainEntries, Bool.and_eq_true, Bool.and_eq_true] at h
      rw [anyCyclicEntry, isCyclic_of_isPlain v h.1.2, anyCyclicEntry_of_allPlain es h.2]
      rfl
  | (.null, _) :: _ | (.bool _, _) :: _ | (.int _, _) :: _ | (.float _, _) :: _
  | (.bytes _, _) :: _ | (.date _, _) :: _ | (.time _, _) :: _ | (.list _, _) :: _
  | (.tuple _, _) :: _ | (.set _, _) :: _ | (.map _, _) :: _ | (.cycle, _) :: _ => cases h

end

end Value

/-! ## What a tree writes -/

/-- A value writes a condition. -/
def Condition.Written (c : Condition) (v : Value) : Prop :=
  ∃ entries, v = .map entries ∧
    Value.entry? "path" entries = some (.str c.path) ∧
    Value.entry? "operator" entries = some (.str c.operator) ∧
    (Value.entry? "value" entries).getD .null = c.value ∧
    match c.valueFrom with
    | none => Value.entry? "value_from" entries = none ∨
        Value.entry? "value_from" entries = some .null
    | some path => Value.entry? "value_from" entries = some (.str path)

/-- A value writes a rule. -/
def Rule.Written (r : Rule) (v : Value) : Prop :=
  ∃ entries, v = .map entries ∧
    Value.entry? "name" entries = some (.str r.name) ∧
    (∃ spec, Value.entry? "match" entries = some (.map spec) ∧
      Value.entry? "kind" spec = some (.str r.kind)) ∧
    (Value.entry? "conditions" entries = none ∧ r.conditions = [] ∨
      ∃ items, Value.entry? "conditions" entries = some (.list items) ∧
        List.Forall₂ Condition.Written r.conditions items) ∧
    Value.entry? "message" entries = some (.str r.message)

/-- A tree writes a rule set. -/
def RuleSet.Written (s : RuleSet) (tree : Value) : Prop :=
  ∃ entries items, tree = .map entries ∧ Value.entry? "rules" entries = some (.list items) ∧
    List.Forall₂ Rule.Written s.rules items

/-! ## What the checks accept -/

variable {α β : Type} {key : String} {entries : List (Value × Value)} {v : Value}

theorem required_eq_ok {check : Value → Checked α} {x : α} :
    required key check entries = .ok x ↔
      ∃ v, Value.entry? key entries = some v ∧ check v = .ok x := by
  rw [required, under_eq_ok]
  cases Value.entry? key entries with
  | none => simp [refuse]
  | some v => simp

theorem optional_eq_ok_iff {dflt x : α} {check : Value → Checked α} :
    optional key dflt check entries = .ok x ↔
      Value.entry? key entries = none ∧ x = dflt ∨
      ∃ v, Value.entry? key entries = some v ∧ check v = .ok x := by
  rw [optional, under_eq_ok]
  cases Value.entry? key entries with
  | none => simp [eq_comm]
  | some v => simp

theorem items_eq_ok {check : α → Checked β} {n : Nat} {as : List α} {bs : List β} :
    items check n as = .ok bs ↔ List.Forall₂ (fun b a => check a = .ok b) bs as := by
  induction as generalizing n bs with
  | nil =>
      rw [items, List.forall₂_nil_right_iff]
      exact ⟨fun h => (Except.ok.inj h).symm, fun h => by rw [h]⟩
  | cons a as ih =>
      rw [items, both_eq_ok, List.forall₂_cons_right_iff]
      constructor
      · rintro ⟨b, bs, hb, hbs, rfl⟩
        exact ⟨b, bs, under_eq_ok.1 hb, ih.1 hbs, rfl⟩
      · rintro ⟨b, bs, hb, hbs, rfl⟩
        exact ⟨b, bs, under_eq_ok.2 hb, ih.2 hbs, rfl⟩

theorem checkMapping_eq_ok {form : String} {es : List (Value × Value)} :
    checkMapping form v = .ok es ↔ v = .map es := by
  cases v <;> simp [checkMapping, refuse]

theorem checkString_eq_ok (plain : v.isPlain = true) {s : String} :
    checkString v = .ok s ↔ v = .str s := by
  cases v with
  | bytes => cases plain
  | _ => simp [checkString, refuse]

theorem checkSequence_eq_ok (plain : v.isPlain = true) {vs : List Value} :
    checkSequence v = .ok vs ↔ v = .list vs := by
  cases v with
  | tuple => cases plain
  | set => cases plain
  | _ => simp [checkSequence, refuse]

theorem checkOptionalString_eq_ok (plain : v.isPlain = true) {x : Option String} :
    checkOptionalString v = .ok x ↔
      match x with
      | none => v = .null
      | some s => v = .str s := by
  cases v with
  | bytes => cases plain
  | _ => cases x <;> simp [checkOptionalString, checkString, refuse, Except.map]

/-- A field that has to be a string. -/
theorem required_string_iff (plain : (Value.map entries).isPlain = true) {s : String} :
    required key checkString entries = .ok s ↔ Value.entry? key entries = some (.str s) := by
  rw [required_eq_ok]
  constructor
  · rintro ⟨v, hv, hs⟩
    rw [hv, (checkString_eq_ok (Value.isPlain_of_entry? plain hv)).1 hs]
  · intro h
    exact ⟨_, h, rfl⟩

theorem Condition.check_eq_ok (plain : v.isPlain = true) {c : Condition} :
    Condition.check v = .ok c ↔ c.Written v := by
  rw [Condition.check, bind_eq_ok]
  simp only [checkMapping_eq_ok]
  refine exists_congr fun es => and_congr_right fun hv => ?_
  rw [hv] at plain
  have path {s : String} : required "path" checkString es = .ok s ↔
      Value.entry? "path" es = some (.str s) := required_string_iff plain
  have operator {s : String} : required "operator" checkString es = .ok s ↔
      Value.entry? "operator" es = some (.str s) := required_string_iff plain
  have value {x : Value} : optional "value" .null .ok es = .ok x ↔
      (Value.entry? "value" es).getD .null = x := by
    rw [optional_eq_ok_iff]
    cases Value.entry? "value" es <;> simp [eq_comm]
  have valueFrom {x : Option String} :
      optional "value_from" none checkOptionalString es = .ok x ↔
        match x with
        | none => Value.entry? "value_from" es = none ∨ Value.entry? "value_from" es = some .null
        | some s => Value.entry? "value_from" es = some (.str s) := by
    rw [optional_eq_ok_iff]
    cases hfrom : Value.entry? "value_from" es with
    | none => cases x <;> simp
    | some w =>
        have := checkOptionalString_eq_ok (Value.isPlain_of_entry? plain hfrom) (x := x)
        cases x <;> simp [this]
  simp only [Condition.checkFields, app_eq_ok]
  constructor
  · rintro ⟨_, from?, ⟨_, x, ⟨_, o, ⟨_, p, hmk, hp, rfl⟩, ho, rfl⟩, hx, rfl⟩, hfrom, rfl⟩
    cases hmk
    exact ⟨path.1 hp, operator.1 ho, value.1 hx, valueFrom.1 hfrom⟩
  · rintro ⟨hp, ho, hx, hfrom⟩
    exact ⟨_, _, ⟨_, _, ⟨_, _, ⟨_, _, rfl, path.2 hp, rfl⟩, operator.2 ho, rfl⟩, value.2 hx,
      rfl⟩, valueFrom.2 hfrom, rfl⟩

/-- A field with a list is accepted item by item. -/
theorem field_list_iff {check : Value → Checked α} {Written : α → Value → Prop}
    (hcheck : ∀ w, w.isPlain = true → ∀ x, check w = .ok x ↔ Written x w)
    (plain : (Value.map entries).isPlain = true) {xs : List α} :
    (∃ v, Value.entry? key entries = some v ∧ (checkSequence v >>= items check 0) = .ok xs) ↔
      ∃ vs, Value.entry? key entries = some (.list vs) ∧ List.Forall₂ Written xs vs := by
  have itemwise {vs : List Value} (h : (Value.list vs).isPlain = true) {xs : List α} :
      items check 0 vs = .ok xs ↔ List.Forall₂ Written xs vs := by
    rw [items_eq_ok]
    have each := fun w hw => hcheck w (Value.isPlain_of_mem h hw)
    clear h
    induction vs generalizing xs with
    | nil => rw [List.forall₂_nil_right_iff, List.forall₂_nil_right_iff]
    | cons w ws ih =>
        rw [List.forall₂_cons_right_iff, List.forall₂_cons_right_iff]
        refine exists_congr fun x => exists_congr fun xs' => ?_
        have rest : List.Forall₂ (fun b a => check a = .ok b) xs' ws ↔
            List.Forall₂ Written xs' ws := ih fun w' hw' => each w' (List.mem_cons_of_mem _ hw')
        rw [each w List.mem_cons_self x, rest]
  constructor
  · rintro ⟨v, hv, hxs⟩
    have hplain := Value.isPlain_of_entry? plain hv
    obtain ⟨vs, hvs, hxs⟩ := bind_eq_ok.1 hxs
    rw [checkSequence_eq_ok hplain] at hvs
    rw [hvs] at hv hplain
    exact ⟨vs, hv, (itemwise hplain).1 hxs⟩
  · rintro ⟨vs, hv, hxs⟩
    have hplain := Value.isPlain_of_entry? plain hv
    exact ⟨_, hv, bind_eq_ok.2 ⟨vs, rfl, (itemwise hplain).2 hxs⟩⟩

theorem Rule.check_eq_ok (plain : v.isPlain = true) {r : Rule} :
    Rule.check v = .ok r ↔ r.Written v := by
  rw [Rule.check, bind_eq_ok]
  simp only [checkMapping_eq_ok]
  refine exists_congr fun es => and_congr_right fun hv => ?_
  rw [hv] at plain
  have name {s : String} : required "name" checkString es = .ok s ↔
      Value.entry? "name" es = some (.str s) := required_string_iff plain
  have message {s : String} : required "message" checkString es = .ok s ↔
      Value.entry? "message" es = some (.str s) := required_string_iff plain
  have kind {s : String} : required "match" Rule.checkMatch es = .ok s ↔
      ∃ spec, Value.entry? "match" es = some (.map spec) ∧
        Value.entry? "kind" spec = some (.str s) := by
    rw [required_eq_ok]
    constructor
    · rintro ⟨w, hw, hs⟩
      have hplain := Value.isPlain_of_entry? plain hw
      obtain ⟨spec, hspec, hs⟩ := bind_eq_ok.1 hs
      rw [checkMapping_eq_ok] at hspec
      rw [hspec] at hw hplain
      exact ⟨spec, hw, (required_string_iff hplain).1 hs⟩
    · rintro ⟨spec, hspec, hs⟩
      have hplain := Value.isPlain_of_entry? plain hspec
      exact ⟨_, hspec, bind_eq_ok.2 ⟨spec, rfl, (required_string_iff hplain).2 hs⟩⟩
  have conditions {cs : List Condition} :
      optional "conditions" [] Condition.checkAll es = .ok cs ↔
        Value.entry? "conditions" es = none ∧ cs = [] ∨
        ∃ items, Value.entry? "conditions" es = some (.list items) ∧
          List.Forall₂ Condition.Written cs items := by
    rw [optional_eq_ok_iff]
    exact or_congr_right (field_list_iff (fun _ h _ => Condition.check_eq_ok h) plain)
  simp only [Rule.checkFields, app_eq_ok]
  constructor
  · rintro ⟨_, m, ⟨_, cs, ⟨_, k, ⟨_, n, hmk, hn, rfl⟩, hk, rfl⟩, hcs, rfl⟩, hm, rfl⟩
    cases hmk
    exact ⟨name.1 hn, kind.1 hk, conditions.1 hcs, message.1 hm⟩
  · rintro ⟨hn, hk, hcs, hm⟩
    exact ⟨_, _, ⟨_, _, ⟨_, _, ⟨_, _, rfl, name.2 hn, rfl⟩, kind.2 hk, rfl⟩, conditions.2 hcs,
      rfl⟩, message.2 hm, rfl⟩

namespace RuleSet

variable {source text : String} {tree : Value}

theorem checkFields_eq_ok (plain : (Value.map entries).isPlain = true) {s : RuleSet} :
    checkFields entries = .ok s ↔
      ∃ items, Value.entry? "rules" entries = some (.list items) ∧
        List.Forall₂ Rule.Written s.rules items := by
  have rules {rs : List Rule} : required "rules" Rule.checkAll entries = .ok rs ↔
      ∃ items, Value.entry? "rules" entries = some (.list items) ∧
        List.Forall₂ Rule.Written rs items := by
    rw [required_eq_ok]
    exact field_list_iff (fun _ h _ => Rule.check_eq_ok h) plain
  rw [← rules, checkFields]
  cases required "rules" Rule.checkAll entries with
  | error is => simp [Except.map]
  | ok rs =>
      rw [Except.map, Except.ok.injEq, Except.ok.injEq]
      exact ⟨fun h => by rw [← h], fun h => by rw [h]⟩

/-- A plain tree comes to the rule set that it writes, or is refused for its form. -/
theorem ofTree_plain (source : String) (plain : tree.isPlain = true) :
    (∀ s, ofTree source tree = .ok s ↔ s.Written tree) ∧
    ((¬ ∃ s : RuleSet, s.Written tree) →
      ∃ f, ofTree source tree = .error (.failure f) ∧ f.cls = .schema) := by
  have nothing (h : rulesEntries? tree = none) (s : RuleSet) : ¬ s.Written tree := by
    rintro ⟨es, items, rfl, hitems, _⟩
    rw [rulesEntries?, hitems] at h
    cases h
  unfold ofTree
  cases hentries : rulesEntries? tree with
  | none => exact ⟨fun s => iff_of_false nofun (nothing hentries s), fun _ => ⟨_, rfl, rfl⟩⟩
  | some es =>
      obtain ⟨rfl, items, hitems⟩ : tree = .map es ∧
          ∃ items, Value.entry? "rules" es = some (.list items) := by
        cases tree with
        | map es' =>
            obtain ⟨rfl, h⟩ := Yaml.Document.rulesEntries?_map.1 hentries
            exact ⟨rfl, h⟩
        | _ => cases hentries
      have keys : (es.all fun e => e.1.isString) = true :=
        List.all_eq_true.2 fun e he => (Value.isPlain_of_entry plain he).1
      have written (s : RuleSet) : checkFields es = .ok s ↔ s.Written (.map es) := by
        rw [checkFields_eq_ok plain]
        constructor
        · rintro ⟨items, h⟩
          exact ⟨es, items, rfl, h⟩
        · rintro ⟨_, items, hes, h⟩
          cases hes
          exact ⟨items, h⟩
      dsimp only
      rw [keys, Bool.not_true, if_neg Bool.false_ne_true]
      cases hcheck : checkFields es with
      | error is =>
          have none_written (s : RuleSet) : ¬ s.Written (.map es) := by
            rw [← written, hcheck]
            nofun
          exact ⟨fun s => iff_of_false nofun (none_written s), fun _ => ⟨_, rfl, rfl⟩⟩
      | ok s' =>
          refine ⟨fun s => ?_, fun h => absurd ⟨s', (written s').1 hcheck⟩ h⟩
          rw [← written, hcheck]
          simp only [named, Except.ok.injEq]

/-- A plain tree is not cut anywhere, so all depends on the tree. -/
theorem parse_of_plain (source : String) {d : Yaml.Document} (loads : Yaml.document text = .ok d)
    (plain : d.value.isPlain = true) : parse source text = ofTree source d.value := by
  simp only [parse, loads, ofDocument, Value.isCyclic_of_isPlain _ plain, Bool.false_eq_true,
    if_false]

/-- A rule document with a plain tree is accepted exactly if its tree writes a
rule set, and comes to this rule set: the rules and conditions are those of the
lists, in order, and entries of other names play no part. Any other plain tree
is refused for its form. -/
theorem parse_eq_ok_iff_written (source : String) {d : Yaml.Document}
    (loads : Yaml.document text = .ok d) (plain : d.value.isPlain = true) :
    ((∃ s, parse source text = .ok s) ↔ ∃ s : RuleSet, s.Written d.value) ∧
    (∀ s, parse source text = .ok s ↔ s.Written d.value) ∧
    ((¬ ∃ s : RuleSet, s.Written d.value) →
      ∃ f, parse source text = .error (.failure f) ∧ f.cls = .schema) := by
  obtain ⟨accepted, refused⟩ := ofTree_plain source plain
  rw [parse_of_plain source loads plain]
  exact ⟨exists_congr accepted, accepted, refused⟩

/-- Two rules, the first one without conditions, among entries that nothing looks at. -/
theorem parse_two_rules :
    let text := "rules:\n- \x7bname: a, match: \x7bkind: Pod, version: 1\x7d, message: m\x7d\n" ++
      "- name: b\n  match: \x7bkind: Pod\x7d\n  message: n\n  conditions:\n" ++
      "  - \x7bpath: p, operator: exists, value: [1.5, null], value_from: ~\x7d\nnotes: [x]\n"
    ∃ d s, Yaml.document text = .ok d ∧ d.value.isPlain = true ∧
      parse "<string>" text = .ok s ∧ s.rules.length = 2 ∧ s.Written d.value := by
  intro text
  obtain ⟨d, loads, plain, s, hs, hlength⟩ : ∃ d, Yaml.document text = .ok d ∧
      d.value.isPlain = true ∧ ∃ s, ofTree "<string>" d.value = .ok s ∧ s.rules.length = 2 := by
    decide +kernel
  rw [← parse_of_plain "<string>" loads plain] at hs
  obtain ⟨_, accepted, _⟩ := parse_eq_ok_iff_written "<string>" loads plain
  exact ⟨d, s, loads, plain, hs, hlength, (accepted s).1 hs⟩

end RuleSet

end ManifestPolicy
