import ManifestPolicy.Proofs.RuleGrammar
import ManifestPolicy.Schema.Published
import ManifestPolicy.Schema.Validity

/-!
# The published grammar of rule documents

The schema that is published for rule documents admits exactly the JSON
documents that are accepted as rule documents. Neither side is read off the
other: a schema is followed keyword by keyword, through its references, while
the checks of rules go down the tree of the document. Both are compared with
the same grammar, `Json.DocumentForm`, which says of each level which members
an object has to have, which ones it may have, and what they are.

A keyword asks something of values of every type or of one type only, and that
comes first (`keywordFaults_any`, `keywordFaults_object`). What it asks is then
said once for each keyword (`keywordFaults_type` and so on), whatever the
schemas below it are checked with. A form of the published schema then asks what its keywords ask. The
schema is a few levels deep and its references do not lead back, so a fixed
number of steps sees all of it, and the steps that the validator allows itself
are never too few.
-/

namespace ManifestPolicy

/-! ## JSON documents as trees -/

namespace Json

variable {j : Json}

theorem toValues_eq_map (items : List Json) : toValues items = items.map toValue := by
  induction items with
  | nil => rfl
  | cons v vs ih => rw [toValues, ih, List.map_cons]

theorem entry?_toEntries (key : String) (members : List (String × Json)) :
    Value.entry? key (toEntries members) = (member? key members).map toValue := by
  unfold Value.entry? member?
  induction members with
  | nil => rfl
  | cons m ms ih =>
      obtain ⟨name, v⟩ := m
      rw [toEntries]
      by_cases h : name = key
      · rw [List.find?_cons_of_pos (by simpa using h), List.find?_cons_of_pos (by simpa using h)]
        rfl
      · rw [List.find?_cons_of_neg (by simpa using h), List.find?_cons_of_neg (by simpa using h)]
        exact ih

mutual

/-- The tree of a JSON document is plain. -/
theorem isPlain_toValue (j : Json) : j.toValue.isPlain = true := by
  match j with
  | .null | .bool _ | .int _ | .float _ | .str _ => rfl
  | .arr items =>
      rw [toValue, Value.isPlain]
      exact allPlain_toValues items
  | .obj members =>
      rw [toValue, Value.isPlain]
      exact allPlainEntries_toEntries members

theorem allPlain_toValues (items : List Json) : Value.allPlain (toValues items) = true := by
  match items with
  | [] => rfl
  | v :: vs =>
      rw [toValues, Value.allPlain, isPlain_toValue v, allPlain_toValues vs]
      rfl

theorem allPlainEntries_toEntries (members : List (String × Json)) :
    Value.allPlainEntries (toEntries members) = true := by
  match members with
  | [] => rfl
  | (_, v) :: ms =>
      rw [toEntries, Value.allPlainEntries, isPlain_toValue v, allPlainEntries_toEntries ms]
      rfl

end

theorem toValue_eq_null : j.toValue = .null ↔ j = .null := by
  cases j <;> simp [toValue]

theorem toValue_eq_str {s : String} : j.toValue = .str s ↔ j = .str s := by
  cases j <;> simp [toValue]

theorem toValue_eq_list {vs : List Value} :
    j.toValue = .list vs ↔ ∃ items, j = .arr items ∧ vs = items.map toValue := by
  cases j <;> simp [toValue, toValues_eq_map, eq_comm]

theorem toValue_eq_map {es : List (Value × Value)} :
    j.toValue = .map es ↔ ∃ ms, j = .obj ms ∧ es = toEntries ms := by
  cases j <;> simp [toValue, eq_comm]

/-! ## The grammar -/

/-- An object has a member of some form. -/
def Has (Form : Json → Prop) (name : String) (members : List (String × Json)) : Prop :=
  ∃ v, member? name members = some v ∧ Form v

/-- An object has no member of a name, or one of some form. -/
def MayHave (Form : Json → Prop) (name : String) (members : List (String × Json)) : Prop :=
  ∀ v, member? name members = some v → Form v

/-- A string. -/
def StringForm (j : Json) : Prop := ∃ s, j = .str s

/-- An array of values of some form. -/
def ArrayForm (Form : Json → Prop) (j : Json) : Prop :=
  ∃ items, j = .arr items ∧ ∀ v ∈ items, Form v

/-- What selects documents. -/
def MatchForm (j : Json) : Prop := ∃ ms, j = .obj ms ∧ Has StringForm "kind" ms

/-- A condition. -/
def ConditionForm (j : Json) : Prop :=
  ∃ ms, j = .obj ms ∧ Has StringForm "path" ms ∧ Has StringForm "operator" ms ∧
    MayHave (fun v => StringForm v ∨ v = .null) "value_from" ms

/-- A rule. -/
def RuleForm (j : Json) : Prop :=
  ∃ ms, j = .obj ms ∧ Has StringForm "name" ms ∧ Has MatchForm "match" ms ∧
    MayHave (ArrayForm ConditionForm) "conditions" ms ∧ Has StringForm "message" ms

/-- A rule document. -/
def DocumentForm (j : Json) : Prop := ∃ ms, j = .obj ms ∧ Has (ArrayForm RuleForm) "rules" ms

theorem has_iff {Form : Json → Prop} {name : String} {members : List (String × Json)} :
    Has Form name members ↔ (member? name members).isSome ∧ MayHave Form name members := by
  unfold Has MayHave
  cases member? name members <;> simp

end Json

/-! ## What the checks accept -/

open Json

variable {j : Json} {members : List (String × Json)} {name : String}

theorem exists_forall₂_iff {α β : Type} {R : α → β → Prop} {bs : List β} :
    (∃ as, List.Forall₂ R as bs) ↔ ∀ b ∈ bs, ∃ a, R a b := by
  induction bs with
  | nil => simp
  | cons b bs ih =>
      rw [List.forall_mem_cons, ← ih]
      constructor
      · rintro ⟨_, h⟩
        obtain ⟨a, as, ha, has, _⟩ := List.forall₂_cons_right_iff.1 h
        exact ⟨⟨a, ha⟩, as, has⟩
      · rintro ⟨⟨a, ha⟩, as, has⟩
        exact ⟨a :: as, .cons ha has⟩

theorem entry_string_iff {s : String} :
    Value.entry? name (toEntries members) = some (.str s) ↔
      member? name members = some (.str s) := by
  rw [entry?_toEntries, Option.map_eq_some_iff]
  simp [toValue_eq_str]

theorem entry_list_iff {vs : List Value} :
    Value.entry? name (toEntries members) = some (.list vs) ↔
      ∃ items, member? name members = some (.arr items) ∧ vs = items.map toValue := by
  rw [entry?_toEntries, Option.map_eq_some_iff]
  constructor
  · rintro ⟨v, hv, h⟩
    obtain ⟨items, rfl, rfl⟩ := toValue_eq_list.1 h
    exact ⟨items, hv, rfl⟩
  · rintro ⟨items, hv, rfl⟩
    exact ⟨_, hv, toValue_eq_list.2 ⟨items, rfl, rfl⟩⟩

theorem entry_map_iff {es : List (Value × Value)} :
    Value.entry? name (toEntries members) = some (.map es) ↔
      ∃ ms, member? name members = some (.obj ms) ∧ es = toEntries ms := by
  rw [entry?_toEntries, Option.map_eq_some_iff]
  constructor
  · rintro ⟨v, hv, h⟩
    obtain ⟨ms, rfl, rfl⟩ := toValue_eq_map.1 h
    exact ⟨ms, hv, rfl⟩
  · rintro ⟨ms, hv, rfl⟩
    exact ⟨_, hv, toValue_eq_map.2 ⟨ms, rfl, rfl⟩⟩

/-- The strings of an object are its members with a string. -/
theorem exists_entry_string_iff :
    (∃ s, Value.entry? name (toEntries members) = some (.str s)) ↔ Has StringForm name members := by
  simp only [entry_string_iff]
  constructor
  · rintro ⟨s, h⟩
    exact ⟨_, h, s, rfl⟩
  · rintro ⟨_, h, s, rfl⟩
    exact ⟨s, h⟩

/-- A list is written item by item. -/
theorem exists_entry_list_iff {α : Type} {Written : α → Value → Prop} {Form : Json → Prop}
    (h : ∀ j : Json, (∃ x, Written x j.toValue) ↔ Form j) :
    (∃ xs items, Value.entry? name (toEntries members) = some (.list items) ∧
      List.Forall₂ Written xs items) ↔ Has (ArrayForm Form) name members := by
  have itemwise (items : List Json) :
      (∃ xs, List.Forall₂ Written xs (items.map toValue)) ↔ ∀ v ∈ items, Form v := by
    rw [exists_forall₂_iff, List.forall_mem_map]
    exact forall₂_congr fun v _ => h v
  constructor
  · rintro ⟨xs, vs, hvs, hxs⟩
    obtain ⟨items, hitems, rfl⟩ := entry_list_iff.1 hvs
    exact ⟨_, hitems, items, rfl, (itemwise items).1 ⟨xs, hxs⟩⟩
  · rintro ⟨_, hv, items, rfl, hitems⟩
    obtain ⟨xs, hxs⟩ := (itemwise items).2 hitems
    exact ⟨xs, _, entry_list_iff.2 ⟨items, hv, rfl⟩, hxs⟩

theorem exists_written_condition_iff :
    (∃ c : Condition, c.Written j.toValue) ↔ ConditionForm j := by
  constructor
  · rintro ⟨c, es, hes, hpath, hoperator, -, hfrom⟩
    obtain ⟨ms, rfl, rfl⟩ := toValue_eq_map.1 hes
    refine ⟨ms, rfl, exists_entry_string_iff.1 ⟨_, hpath⟩, exists_entry_string_iff.1 ⟨_, hoperator⟩,
      fun v hv => ?_⟩
    cases hc : c.valueFrom with
    | none =>
        simp only [hc, entry?_toEntries, hv, Option.map_some, Option.some.injEq, reduceCtorEq,
          false_or] at hfrom
        exact .inr (toValue_eq_null.1 hfrom)
    | some s =>
        simp only [hc, entry?_toEntries, hv, Option.map_some, Option.some.injEq] at hfrom
        exact .inl ⟨s, toValue_eq_str.1 hfrom⟩
  · rintro ⟨ms, rfl, hpath, hoperator, hfrom⟩
    obtain ⟨path, hpath⟩ := exists_entry_string_iff.2 hpath
    obtain ⟨operator, hoperator⟩ := exists_entry_string_iff.2 hoperator
    cases hv : member? "value_from" ms with
    | none =>
        have hentry : Value.entry? "value_from" (toEntries ms) = none := by
          rw [entry?_toEntries, hv]
          rfl
        exact ⟨⟨path, operator, _, none⟩, toEntries ms, rfl, hpath, hoperator, rfl, .inl hentry⟩
    | some v =>
        have hentry : Value.entry? "value_from" (toEntries ms) = some v.toValue := by
          rw [entry?_toEntries, hv]
          rfl
        rcases hfrom v hv with ⟨s, rfl⟩ | rfl
        · exact ⟨⟨path, operator, _, some s⟩, toEntries ms, rfl, hpath, hoperator, rfl, hentry⟩
        · exact ⟨⟨path, operator, _, none⟩, toEntries ms, rfl, hpath, hoperator, rfl, .inr hentry⟩

theorem exists_written_rule_iff : (∃ r : Rule, r.Written j.toValue) ↔ RuleForm j := by
  have conditions {members : List (String × Json)} :
      (∃ cs items, Value.entry? "conditions" (toEntries members) = some (.list items) ∧
        List.Forall₂ Condition.Written cs items) ↔
        Has (ArrayForm ConditionForm) "conditions" members :=
    exists_entry_list_iff fun _ => exists_written_condition_iff
  constructor
  · rintro ⟨r, es, hes, hname, ⟨spec, hspec, hkind⟩, hconditions, hmessage⟩
    obtain ⟨ms, rfl, rfl⟩ := toValue_eq_map.1 hes
    obtain ⟨specMembers, hmatch, rfl⟩ := entry_map_iff.1 hspec
    refine ⟨ms, rfl, exists_entry_string_iff.1 ⟨_, hname⟩,
      ⟨_, hmatch, specMembers, rfl, exists_entry_string_iff.1 ⟨_, hkind⟩⟩, fun v hv => ?_,
      exists_entry_string_iff.1 ⟨_, hmessage⟩⟩
    rcases hconditions with ⟨hnone, _⟩ | ⟨items, hitems⟩
    · rw [entry?_toEntries, hv] at hnone
      cases hnone
    · obtain ⟨w, hw, harray⟩ := conditions.1 ⟨_, items, hitems⟩
      rw [hv] at hw
      cases hw
      exact harray
  · rintro ⟨ms, rfl, hname, ⟨_, hmatch, specMembers, rfl, hkind⟩, hconditions, hmessage⟩
    obtain ⟨name, hname⟩ := exists_entry_string_iff.2 hname
    obtain ⟨kind, hkind⟩ := exists_entry_string_iff.2 hkind
    obtain ⟨message, hmessage⟩ := exists_entry_string_iff.2 hmessage
    have hspec := entry_map_iff.2 ⟨specMembers, hmatch, rfl⟩
    cases hv : member? "conditions" ms with
    | none =>
        have hnone : Value.entry? "conditions" (toEntries ms) = none := by
          rw [entry?_toEntries, hv]
          rfl
        exact ⟨⟨name, kind, [], message⟩, toEntries ms, rfl, hname, ⟨_, hspec, hkind⟩,
          .inl ⟨hnone, rfl⟩, hmessage⟩
    | some v =>
        obtain ⟨cs, items, hitems⟩ := conditions.2 ⟨v, hv, hconditions v hv⟩
        exact ⟨⟨name, kind, cs, message⟩, toEntries ms, rfl, hname, ⟨_, hspec, hkind⟩,
          .inr ⟨items, hitems⟩, hmessage⟩

theorem exists_written_document_iff : (∃ s : RuleSet, s.Written j.toValue) ↔ DocumentForm j := by
  have rules {members : List (String × Json)} :
      (∃ rs items, Value.entry? "rules" (toEntries members) = some (.list items) ∧
        List.Forall₂ Rule.Written rs items) ↔ Has (ArrayForm RuleForm) "rules" members :=
    exists_entry_list_iff fun _ => exists_written_rule_iff
  constructor
  · rintro ⟨s, es, items, hes, hitems⟩
    obtain ⟨ms, rfl, rfl⟩ := toValue_eq_map.1 hes
    exact ⟨ms, rfl, rules.1 ⟨_, items, hitems⟩⟩
  · rintro ⟨ms, rfl, hrules⟩
    obtain ⟨rs, items, hitems⟩ := rules.2 hrules
    exact ⟨⟨rs⟩, toEntries ms, items, rfl, hitems⟩

/-! ## What keywords ask -/

namespace Schema

section Keywords

variable {check : Json → Json → List Fault} {root : Json} {keywords : List (String × Json)}
  {arg v : Json}

/-- The keywords that ask something of values of every type. -/
def anyKeywords : List String := ["$ref", "type", "enum", "allOf", "anyOf"]

/-- The keywords that ask something of objects only. -/
def objectKeywords : List String :=
  ["properties", "required", "additionalProperties", "propertyNames"]

/-- The keywords that ask something of arrays only. -/
def arrayKeywords : List String := ["items", "minItems", "uniqueItems"]

/-- The keywords that ask something of strings only. -/
def stringKeywords : List String := ["pattern", "format"]

/-- The keywords that ask something of numbers only. -/
def numberKeywords : List String := ["minimum", "exclusiveMinimum"]

/-- The keywords that describe, and those that are only referred to. -/
def annotations : List String := ["$defs", "$schema", "default", "description", "title", "version"]

theorem commonFaults_eq_nil (h : name ∉ anyKeywords) :
    commonFaults check root name arg v = [] := by
  unfold commonFaults
  split
  all_goals first
    | rfl
    | exact absurd (by decide) h

theorem objectFaults_eq_nil (h : name ∉ objectKeywords) :
    objectFaults check keywords name arg members = [] := by
  unfold objectFaults
  split
  all_goals first
    | rfl
    | exact absurd (by decide) h

theorem arrayFaults_eq_nil {items : List Json} (h : name ∉ arrayKeywords) :
    arrayFaults check name arg items = [] := by
  unfold arrayFaults
  split
  all_goals first
    | rfl
    | exact absurd (by decide) h

theorem stringFaults_eq_nil {s : String} (h : name ∉ stringKeywords) :
    stringFaults name arg s = [] := by
  unfold stringFaults
  split
  all_goals first
    | rfl
    | exact absurd (by decide) h

theorem numberFaults_eq_nil (h : name ∉ numberKeywords) : numberFaults name arg v = [] := by
  obtain ⟨hminimum, hexclusive⟩ : name ≠ "minimum" ∧ name ≠ "exclusiveMinimum" := by
    simpa [numberKeywords] using h
  unfold numberFaults
  split
  · rw [if_neg fun e => hminimum e.1, if_neg fun e => hexclusive e.1]
  · rfl

/-- A keyword that is about no type in particular asks the same of values of every type. -/
theorem keywordFaults_any
    (h : name ∉ objectKeywords ++ arrayKeywords ++ stringKeywords ++ numberKeywords) :
    keywordFaults check root keywords name arg v = commonFaults check root name arg v := by
  simp only [List.mem_append, not_or] at h
  obtain ⟨⟨⟨hobject, harray⟩, hstring⟩, hnumber⟩ := h
  unfold keywordFaults
  split
  · rw [objectFaults_eq_nil hobject, List.append_nil]
  · rw [arrayFaults_eq_nil harray, List.append_nil]
  · rw [stringFaults_eq_nil hstring, List.append_nil]
  · rw [numberFaults_eq_nil hnumber, List.append_nil]

/-- A keyword about objects asks nothing of other values. -/
theorem keywordFaults_object (h : name ∈ objectKeywords) :
    keywordFaults check root keywords name arg v = [] ↔
      ∀ ms, v = .obj ms → objectFaults check keywords name arg ms = [] := by
  obtain ⟨hany, harray, hstring, hnumber⟩ : name ∉ anyKeywords ∧ name ∉ arrayKeywords ∧
      name ∉ stringKeywords ∧ name ∉ numberKeywords := by
    revert name
    decide
  unfold keywordFaults
  rw [commonFaults_eq_nil hany, List.nil_append]
  split
  · next ms => exact ⟨fun hms _ e => by cases e; exact hms, fun hms => hms ms rfl⟩
  · rw [arrayFaults_eq_nil harray]
    simp
  · rw [stringFaults_eq_nil hstring]
    simp
  · next hobj _ _ =>
      rw [numberFaults_eq_nil hnumber]
      exact iff_of_true rfl fun ms e => absurd e (hobj ms)

/-- A keyword about arrays asks nothing of other values. -/
theorem keywordFaults_array (h : name ∈ arrayKeywords) :
    keywordFaults check root keywords name arg v = [] ↔
      ∀ items, v = .arr items → arrayFaults check name arg items = [] := by
  obtain ⟨hany, hobject, hstring, hnumber⟩ : name ∉ anyKeywords ∧ name ∉ objectKeywords ∧
      name ∉ stringKeywords ∧ name ∉ numberKeywords := by
    revert name
    decide
  unfold keywordFaults
  rw [commonFaults_eq_nil hany, List.nil_append]
  split
  · rw [objectFaults_eq_nil hobject]
    simp
  · next items => exact ⟨fun hitems _ e => by cases e; exact hitems, fun hitems => hitems items rfl⟩
  · rw [stringFaults_eq_nil hstring]
    simp
  · next _ harr _ =>
      rw [numberFaults_eq_nil hnumber]
      exact iff_of_true rfl fun items e => absurd e (harr items)

/-- What describes a schema asks nothing. -/
theorem keywordFaults_annotations (h : name ∈ annotations) (arg : Json) :
    keywordFaults check root keywords name arg v = [] := by
  obtain ⟨hany, htyped⟩ : name ∉ anyKeywords ∧
      name ∉ objectKeywords ++ arrayKeywords ++ stringKeywords ++ numberKeywords := by
    revert name
    decide
  rw [keywordFaults_any htyped, commonFaults_eq_nil hany]

theorem keywordFaults_type {type : String} :
    keywordFaults check root keywords "type" (.str type) v = [] ↔ hasType v type = true := by
  have hfaults : commonFaults check root "type" (.str type) v =
      if hasType v type then [] else [.wrongType v [type]] := rfl
  rw [keywordFaults_any (by decide), hfaults]
  simp

theorem keywordFaults_ref {target : String} {s : Json} (h : resolve root target = some s) :
    keywordFaults check root keywords "$ref" (.str target) v = [] ↔ check s v = [] := by
  rw [keywordFaults_any (by decide), commonFaults, h]

theorem keywordFaults_anyOf {ss : List Json} :
    keywordFaults check root keywords "anyOf" (.arr ss) v = [] ↔ ∃ s ∈ ss, check s v = [] := by
  have hfaults : commonFaults check root "anyOf" (.arr ss) v =
      if ss.any fun s => (check s v).isEmpty then [] else [.noAlternative v] := rfl
  rw [keywordFaults_any (by decide), hfaults]
  simp

theorem keywordFaults_items {s : Json} :
    keywordFaults check root keywords "items" s v = [] ↔
      ∀ items, v = .arr items → ∀ w ∈ items, check s w = [] := by
  rw [keywordFaults_array (by decide)]
  exact forall₂_congr fun items _ => List.flatMap_eq_nil_iff

theorem keywordFaults_properties {ps : List (String × Json)} :
    keywordFaults check root keywords "properties" (.obj ps) v = [] ↔
      ∀ ms, v = .obj ms → ∀ p ∈ ps, MayHave (fun w => check p.2 w = []) p.1 ms := by
  rw [keywordFaults_object (by decide)]
  refine forall₂_congr fun ms _ => List.flatMap_eq_nil_iff.trans (forall₂_congr fun p _ => ?_)
  obtain ⟨name, s⟩ := p
  dsimp only
  split
  · next w hw => exact ⟨fun h _ e => by cases hw.symm.trans e; exact h, fun h => h w hw⟩
  · next hw => exact iff_of_true rfl fun _ e => by cases hw.symm.trans e

theorem keywordFaults_required {names : List String} :
    keywordFaults check root keywords "required" (.arr (names.map .str)) v = [] ↔
      ∀ ms, v = .obj ms → ∀ name ∈ names, (member? name ms).isSome := by
  have hnames : strings (names.map .str) = names := by
    unfold strings
    rw [List.filterMap_map]
    exact List.filterMap_some
  have hfaults (ms : List (String × Json)) :
      objectFaults check keywords "required" (.arr (names.map .str)) ms =
        ((strings (names.map .str)).filter fun n => (member? n ms).isNone).map .missing := rfl
  rw [keywordFaults_object (by decide)]
  refine forall₂_congr fun ms _ => ?_
  rw [hfaults, hnames]
  simp [Option.isSome_iff_ne_none]

end Keywords

/-! ## What forms ask

Forms are predicates, and the lemmas on them are equations, so that a form can
be replaced where it is asked of a member or of the items of an array. -/

/-- A schema objects to nothing in a value, as far as some steps lead. -/
def Admits (root : Json) (n : Nat) (schema v : Json) : Prop := faultsWithin root n schema v = []

variable {root v : Json} {n : Nat} {title : String}

theorem admits_obj {keywords : List (String × Json)} :
    Admits root (n + 1) (.obj keywords) v ↔
      ∀ k ∈ keywords, keywordFaults (faultsWithin root n) root keywords k.1 k.2 v = [] := by
  rw [Admits, faultsWithin, List.flatMap_eq_nil_iff]

theorem hasType_string : hasType v "string" = true ↔ StringForm v := by
  cases v <;> simp [hasType, StringForm]

theorem hasType_null : hasType v "null" = true ↔ v = .null := by
  cases v <;> simp [hasType]

theorem hasType_array : hasType v "array" = true ↔ ∃ items, v = .arr items := by
  cases v <;> simp [hasType]

theorem hasType_object : hasType v "object" = true ↔ ∃ ms, v = .obj ms := by
  cases v <;> simp [hasType]

theorem admits_annotations {keywords : List (String × Json)}
    (h : ∀ name ∈ keywords.map (·.1), name ∈ annotations) :
    Admits root (n + 1) (.obj keywords) = fun _ => True := by
  funext v
  refine eq_true (admits_obj.2 fun k hk => keywordFaults_annotations (h k.1 ?_) k.2)
  exact List.mem_map_of_mem hk

theorem admits_string : Admits root (n + 1) (typed title "string") = StringForm := by
  funext v
  rw [typed, admits_obj, List.forall_mem_cons, List.forall_mem_singleton, keywordFaults_type,
    hasType_string]
  exact propext (and_iff_right (keywordFaults_annotations (by simp [annotations]) _))

theorem admits_nullable_string :
    Admits root (n + 2) (nullable title "string") = fun v => StringForm v ∨ v = .null := by
  have alternative (type : String) (v : Json) :
      faultsWithin root (n + 1) (.obj [("type", .str type)]) v = [] ↔ hasType v type = true := by
    rw [← Admits, admits_obj, List.forall_mem_singleton, keywordFaults_type]
  funext v
  rw [nullable, admits_obj, List.forall_mem_cons, List.forall_mem_cons, List.forall_mem_singleton,
    keywordFaults_anyOf]
  refine propext ((and_iff_left ⟨keywordFaults_annotations (by simp [annotations]) _,
    keywordFaults_annotations (by simp [annotations]) _⟩).trans ?_)
  simp [alternative, hasType_string, hasType_null]

theorem admits_reference {s : Json} (h : resolve root ("#/$defs/" ++ name) = some s) :
    Admits root (n + 1) (reference name) = Admits root n s := by
  funext v
  rw [reference, admits_obj, List.forall_mem_singleton, keywordFaults_ref h, Admits]

/-- An array, whatever else its schema says to describe it. -/
theorem admits_array {keywords : List (String × Json)} {s : Json}
    (hitems : ("items", s) ∈ keywords) (htype : ("type", .str "array") ∈ keywords)
    (hrest : ∀ k ∈ keywords, k = ("items", s) ∨ k = ("type", .str "array") ∨ k.1 ∈ annotations) :
    Admits root (n + 1) (.obj keywords) = ArrayForm (Admits root n s) := by
  funext v
  rw [admits_obj]
  refine propext ⟨fun h => ?_, ?_⟩
  · obtain ⟨items, rfl⟩ := hasType_array.1 (keywordFaults_type.1 (h _ htype))
    exact ⟨items, rfl, keywordFaults_items.1 (h _ hitems) items rfl⟩
  · rintro ⟨items, rfl, h⟩ k hk
    rcases hrest k hk with rfl | rfl | hk
    · exact keywordFaults_items.2 fun _ he => by cases he; exact h
    · exact keywordFaults_type.2 rfl
    · exact keywordFaults_annotations hk _

/-- An object with members of which some have to be there, whatever else its schema says to
describe it. -/
theorem admits_members {keywords ps : List (String × Json)} {names : List String}
    (hproperties : ("properties", .obj ps) ∈ keywords)
    (hrequired : ("required", .arr (names.map .str)) ∈ keywords)
    (htype : ("type", .str "object") ∈ keywords)
    (hrest : ∀ k ∈ keywords, k = ("properties", .obj ps) ∨
      k = ("required", .arr (names.map .str)) ∨ k = ("type", .str "object") ∨
      k.1 ∈ annotations) :
    Admits root (n + 1) (.obj keywords) v ↔
      ∃ ms, v = .obj ms ∧ (∀ name ∈ names, (member? name ms).isSome) ∧
        ∀ p ∈ ps, MayHave (Admits root n p.2) p.1 ms := by
  rw [admits_obj]
  constructor
  · intro h
    obtain ⟨ms, rfl⟩ := hasType_object.1 (keywordFaults_type.1 (h _ htype))
    exact ⟨ms, rfl, keywordFaults_required.1 (h _ hrequired) ms rfl,
      keywordFaults_properties.1 (h _ hproperties) ms rfl⟩
  · rintro ⟨ms, rfl, hnames, hps⟩ k hk
    rcases hrest k hk with rfl | rfl | rfl | hk
    · exact keywordFaults_properties.2 fun _ he => by cases he; exact hps
    · exact keywordFaults_required.2 fun _ he => by cases he; exact hnames
    · exact keywordFaults_type.2 rfl
    · exact keywordFaults_annotations hk _

theorem admits_object {description : String} {ps : List (String × Json)} {names : List String}
    (hnames : names ≠ []) :
    Admits root (n + 1) (object title description ps names) v ↔
      ∃ ms, v = .obj ms ∧ (∀ name ∈ names, (member? name ms).isSome) ∧
        ∀ p ∈ ps, MayHave (Admits root n p.2) p.1 ms := by
  have hrequired : requirement names = [("required", .arr (names.map .str))] := by
    unfold requirement
    rw [if_neg (by simpa using hnames)]
  rw [object, hrequired]
  exact admits_members (by simp) (by simp) (by simp) (by simp [annotations])

/-! ## The schema of rule documents -/

theorem admits_matchSpec : Admits rules (n + 2) matchSpec = MatchForm := by
  funext v
  rw [matchSpec, admits_object (by simp)]
  simp only [List.forall_mem_singleton, admits_string, MatchForm, has_iff]

theorem admits_condition : Admits rules (n + 3) condition = ConditionForm := by
  have value : Admits rules (n + 2) (.obj [("default", .null), ("title", .str "Value")]) =
      fun _ => True := admits_annotations (by decide)
  funext v
  rw [condition, admits_object (by simp)]
  simp only [List.forall_mem_cons, List.not_mem_nil, false_imp_iff, implies_true, and_true,
    admits_string, admits_nullable_string, value, ConditionForm, has_iff]
  refine propext (exists_congr fun ms => and_congr_right fun _ => ?_)
  constructor
  · rintro ⟨⟨hp, ho⟩, path, operator, -, from_⟩
    exact ⟨⟨hp, path⟩, ⟨ho, operator⟩, from_⟩
  · rintro ⟨⟨hp, path⟩, ⟨ho, operator⟩, from_⟩
    exact ⟨⟨hp, ho⟩, path, operator, fun _ _ => trivial, from_⟩

theorem admits_rule : Admits rules (n + 6) rule = RuleForm := by
  have hspec : Admits rules (n + 5) (reference "MatchSpec") = MatchForm :=
    (admits_reference rfl).trans admits_matchSpec
  have hconditions : Admits rules (n + 5) (.obj [("default", .arr []),
      ("items", reference "Condition"), ("title", .str "Conditions"), ("type", .str "array")]) =
      ArrayForm ConditionForm := by
    rw [admits_array (s := reference "Condition") (by simp) (by simp) (by simp [annotations]),
      admits_reference (s := condition) rfl, admits_condition]
  funext v
  rw [rule, admits_object (by simp)]
  simp only [List.forall_mem_cons, List.not_mem_nil, false_imp_iff, implies_true, and_true,
    admits_string, hspec, hconditions, RuleForm, has_iff]
  refine propext (exists_congr fun ms => and_congr_right fun _ => ?_)
  constructor
  · rintro ⟨⟨hn, hm, ht⟩, name, spec, conditions, message⟩
    exact ⟨⟨hn, name⟩, ⟨hm, spec⟩, conditions, ht, message⟩
  · rintro ⟨⟨hn, name⟩, ⟨hm, spec⟩, conditions, ht, message⟩
    exact ⟨⟨hn, hm, ht⟩, name, spec, conditions, message⟩

theorem admits_rules : Admits rules (n + 9) rules = DocumentForm := by
  have hitems : Admits rules (n + 8) (.obj [("items", reference "Rule"), ("title", .str "Rules"),
      ("type", .str "array")]) = ArrayForm RuleForm := by
    rw [admits_array (s := reference "Rule") (by simp) (by simp) (by simp [annotations]),
      admits_reference (s := rule) rfl, admits_rule]
  funext v
  have hdocument : Admits rules (n + 9) rules v ↔
      ∃ ms, v = .obj ms ∧ (∀ name ∈ ["rules"], (member? name ms).isSome) ∧
        ∀ p ∈ [("rules", Json.obj [("items", reference "Rule"), ("title", .str "Rules"),
          ("type", .str "array")])], MayHave (Admits rules (n + 8) p.2) p.1 ms :=
    admits_members (by simp) (by simp) (by simp [ending]) (by simp [ending, annotations])
  simp only [hdocument, List.forall_mem_singleton, hitems, DocumentForm, has_iff]

/-- The steps that the validator allows itself see all of the schema. -/
theorem exists_steps (v : Json) : ∃ n, size rules * size v = n + 9 := by
  have hschema : 9 ≤ size rules := by decide +kernel
  have hvalue : 0 < size v := by cases v <;> simp [size]
  have henough : 9 ≤ size rules * size v :=
    Nat.le_trans hschema (Nat.le_mul_of_pos_right _ hvalue)
  exact ⟨_, (Nat.sub_add_cancel henough).symm⟩

theorem isValid_rules_iff : isValid rules v = true ↔ DocumentForm v := by
  obtain ⟨n, hn⟩ := exists_steps v
  rw [isValid, faults, hn, List.isEmpty_iff, ← Admits, admits_rules]

end Schema

namespace RuleSet

/-- The published schema of rule documents admits exactly the JSON documents that are accepted as
rule documents; the others are refused for their form. -/
theorem published_rules_agree : ∃ schema, Json.member? "rules" Schema.published = some schema ∧
    ∀ (source : String) (j : Json),
      (Schema.isValid schema j = true ↔ ∃ s, ofTree source j.toValue = .ok s) ∧
      (Schema.isValid schema j = false ↔
        ∃ f, ofTree source j.toValue = .error (.failure f) ∧ f.cls = .schema) := by
  refine ⟨Schema.rules, rfl, fun source j => ?_⟩
  obtain ⟨accepted, refused⟩ := ofTree_plain source j.isPlain_toValue
  have hvalid : Schema.isValid Schema.rules j = true ↔ ∃ s, ofTree source j.toValue = .ok s := by
    rw [Schema.isValid_rules_iff, ← exists_written_document_iff]
    exact exists_congr fun s => (accepted s).symm
  refine ⟨hvalid, ?_⟩
  rw [← Bool.not_eq_true, hvalid]
  constructor
  · intro h
    exact refused fun ⟨s, hs⟩ => h ⟨s, (accepted s).2 hs⟩
  · rintro ⟨f, hf, _⟩ ⟨s, hs⟩
    rw [hf] at hs
    cases hs

end RuleSet

end ManifestPolicy
