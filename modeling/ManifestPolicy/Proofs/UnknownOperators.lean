import ManifestPolicy.Proofs.LiteralFaults
import ManifestPolicy.Proofs.PathReferences

/-!
# Unknown operators

Conditions may have operators that nobody knows. Strict settings refuse rules
with such conditions before anything is compiled, and say of each which rule
it belongs to; otherwise the operator is written as it stands. The two have to
agree on which operators are known, for the one looks at all rules at once and
the other at one condition at a time.

They do (`strict_and_lenient`): rules are refused exactly if the list of their
unknown operators is not empty, and if it is empty then it makes no difference
whether they would be refused, and no guard has its operator passed through
(`passedThrough_iff`).
-/

namespace ManifestPolicy

/-! ## The operators of rules -/

/-- The names of the operators that conditions know. -/
def Operator.names : List String :=
  ["equals", "exists", "greater_than", "less_than", "regex_match"]

theorem Operator.ofName?_eq_none_iff {name : String} : ofName? name = none ↔ name ∉ names := by
  have hnames : names = all.map Operator.name := rfl
  rw [ofName?, List.find?_eq_none, hnames, List.mem_map]
  simp

/-- The operators of all conditions, each with the name of its rule, in the order of the rules. -/
def RuleSet.operators (rules : RuleSet) : List (String × String) :=
  rules.rules.flatMap fun r => r.conditions.map fun c => (r.name, c.operator)

theorem RuleSet.unknownOperators_eq (rules : RuleSet) :
    rules.unknownOperators = rules.operators.filter fun u => u.2 ∉ Operator.names := by
  have hcondition (c : Condition) : c.operator?.isNone = decide (c.operator ∉ Operator.names) := by
    rw [Bool.eq_iff_iff, Option.isNone_iff_eq_none, decide_eq_true_iff]
    exact Operator.ofName?_eq_none_iff
  rw [unknownOperators, operators, List.filter_flatMap]
  refine congrArg (rules.rules.flatMap ·) (funext fun r => ?_)
  rw [List.filter_map]
  simp only [hcondition, Function.comp_def]

theorem RuleSet.operator_mem_names {rules : RuleSet} (h : rules.unknownOperators = []) :
    ∀ r ∈ rules.rules, ∀ c ∈ r.conditions, c.operator ∈ Operator.names := by
  intro r hr c hc
  rw [unknownOperators_eq, List.filter_eq_nil_iff] at h
  have hmem : (r.name, c.operator) ∈ rules.operators :=
    List.mem_flatMap.2 ⟨r, hr, List.mem_map.2 ⟨c, hc, rfl⟩⟩
  simpa using h _ hmem

theorem Condition.operator_eq_name {c : Condition} {o : Operator} (h : c.operator? = some o) :
    c.operator = o.name := by
  have hname := List.find?_some h
  exact (of_decide_eq_true hname).symm

namespace Policy

variable {s : PolicySettings} {rules : RuleSet} {c : Condition} {g : Line}

/-! ## Operators that are passed through -/

/-- The guard has the operator of its condition written as it stands. -/
def PassedThrough (c : Condition) (g : Line) : Prop :=
  ∃ right, operand c = .ok right ∧
    g = Reference.ofPath c.path.toList ++ ' ' :: (c.operator.toList ++ ' ' :: right)

/-- A known operator is written otherwise. -/
theorem not_passedThrough {o : Operator} (ho : c.operator? = some o) (h : guard c = .ok g) :
    ¬ PassedThrough c g := by
  rintro ⟨right, _, rfl⟩
  rw [Condition.operator_eq_name ho] at h
  simp only [guard, ho] at h
  cases o with
  | «exists» =>
      injection h with h
      have hrest := List.append_cancel_left h
      simp [Operator.name] at hrest
  | regexMatch =>
      obtain ⟨pattern, _, h⟩ := bind_eq_ok.1 h
      injection h with h
      have hhead : some 'r' = _ := congrArg List.head? h
      rw [List.head?_append, Reference.head?_ofPath] at hhead
      cases hhead
  | equals | greaterThan | lessThan =>
      obtain ⟨right', _, h⟩ := bind_eq_ok.1 h
      injection h with h
      have hrest := List.append_cancel_left h
      simp [Operator.name, symbol?] at hrest

/-- An operator is passed through exactly if it is unknown. -/
theorem passedThrough_iff (h : guard c = .ok g) :
    PassedThrough c g ↔ c.operator ∉ Operator.names := by
  rw [← Operator.ofName?_eq_none_iff]
  cases ho : c.operator? with
  | none =>
      simp only [guard, ho] at h
      obtain ⟨right, hright, h⟩ := bind_eq_ok.1 h
      injection h with h
      exact iff_of_true ⟨right, hright, h.symm⟩ ho
  | some o =>
      refine iff_of_false (not_passedThrough ho h) ?_
      intro hnone
      rw [Condition.operator?, hnone] at ho
      cases ho

/-! ## Strict and lenient settings -/

/-- The failure that names the unknown operators. -/
def namesUnknown (unknown : List (String × String)) : Failure :=
  ⟨.schema, "Unsupported operator(s) in rule set (" ++
      ", ".intercalate (unknown.map fun u => u.1 ++ ": '" ++ u.2 ++ "'") ++ ")",
    some "supported operators: equals, exists, greater_than, less_than, regex_match"⟩

theorem unsupported_eq (unknown : List (String × String)) :
    unsupported unknown = namesUnknown unknown := by
  have hdetails : "supported operators: " ++ ", ".intercalate (Operator.all.map Operator.name) =
      "supported operators: equals, exists, greater_than, less_than, regex_match" := by decide
  rw [unsupported, hdetails]
  rfl

/-- There is one way only for rules to fail. -/
theorem compile_failure_iff {f : Failure} : compile s rules = .error (.failure f) ↔
    Refuses s rules ∧ f = namesUnknown rules.unknownOperators := by
  by_cases hrefuses : Refuses s rules
  · rw [compile_of_refuses hrefuses, and_iff_right hrefuses, unsupported_eq]
    simp [eq_comm]
  · rw [compile_of_not_refuses hrefuses]
    refine iff_of_false (fun h => ?_) fun h => hrefuses h.1
    cases hclauses : rules.rules.mapM (clause s.dialect) <;> rw [hclauses] at h <;> cases h

/-- Whether rules would be refused does not matter for rules that are not. -/
theorem compile_eq_of_known (h : rules.unknownOperators = []) (strict : Bool) :
    compile { s with strictOperators := strict } rules = compile s rules := by
  have hkept (s : PolicySettings) : ¬ Refuses s rules := fun hrefuses => hrefuses.2 h
  rw [compile_of_not_refuses (hkept _), compile_of_not_refuses (hkept s)]
  rfl

/-- The guards of known operators are what a policy of theirs is made of. -/
theorem exists_guards {policy : Policy} (h : compile s rules = .ok policy) :
    ∃ guards, List.Forall₂ (fun r gs => Guards r.conditions gs) rules.rules guards ∧
      policy.source.toList =
        joinParts (header s :: List.zipWith (clauseLines s.dialect) rules.rules guards) := by
  obtain ⟨clauses, hclauses, hsource⟩ := compile_source h
  obtain ⟨guards, hguards, rfl⟩ := clauses_eq_ok (forall₂_of_mapM hclauses)
  exact ⟨guards, hguards, hsource⟩

/-- Strict settings refuse rules exactly if there are unknown operators, and name these; others
never do. Where there are none, both kinds of settings come to the same, and in the policy no
operator is passed through. -/
theorem strict_and_lenient (s : PolicySettings) (rules : RuleSet) :
    let strict := { s with strictOperators := true }
    let lenient := { s with strictOperators := false }
    let unknown := rules.operators.filter fun u => u.2 ∉ Operator.names
    (∀ f, compile strict rules = .error (.failure f) ↔ unknown ≠ [] ∧ f = namesUnknown unknown) ∧
    (∀ f, compile lenient rules ≠ .error (.failure f)) ∧
    (unknown = [] → compile strict rules = compile lenient rules ∧
      ∀ policy, compile strict rules = .ok policy → ∃ guards,
        List.Forall₂ (fun r gs => List.Forall₂ (fun c g => guard c = .ok g ∧ ¬ PassedThrough c g)
          r.conditions gs) rules.rules guards ∧
        policy.source.toList =
          joinParts (header s :: List.zipWith (clauseLines s.dialect) rules.rules guards)) := by
  intro strict lenient unknown
  have hunknown : unknown = rules.unknownOperators := rules.unknownOperators_eq.symm
  rw [hunknown]
  refine ⟨fun f => ?_, fun f hfailure => ?_, fun hknown => ⟨?_, fun policy hpolicy => ?_⟩⟩
  · rw [compile_failure_iff, Refuses, and_iff_right rfl]
  · cases (compile_failure_iff.1 hfailure).1.1
  · exact (compile_eq_of_known hknown true).trans (compile_eq_of_known hknown false).symm
  · obtain ⟨guards, hguards, hsource⟩ := exists_guards hpolicy
    refine ⟨guards, ?_, hsource⟩
    have hall := rules.operator_mem_names hknown
    refine ((List.forall₂_and_left _ _).2 ⟨hall, hguards⟩).imp fun r gs h => ?_
    refine ((List.forall₂_and_left _ _).2 h).imp fun c g h => ⟨h.2, fun hpassed => ?_⟩
    exact (passedThrough_iff h.2).1 hpassed h.1

/-- An operator that is known, and one that is unknown twice in a rule and another one in the
next rule. -/
theorem strict_and_lenient_repeated :
    let condition (operator : String) : Condition := ⟨"spec.x", operator, .null, none⟩
    let known : RuleSet := ⟨[⟨"a", "Pod", [condition "exists"], "m"⟩]⟩
    let repeated : RuleSet := ⟨[⟨"a", "Pod", ["~", "exists", "~"].map condition, "m"⟩,
      ⟨"b", "Pod", [condition ""], "m"⟩]⟩
    let unknown := [("a", "~"), ("a", "~"), ("b", "")]
    (∃ policy, compile { strictOperators := true } known = .ok policy ∧
      compile { strictOperators := false } known = .ok policy) ∧
    compile { strictOperators := true } repeated = .error (.failure (namesUnknown unknown)) ∧
    (namesUnknown unknown).message =
      "Unsupported operator(s) in rule set (a: '~', a: '~', b: '')" ∧
    ∃ policy, compile { strictOperators := false } repeated = .ok policy := by
  intro condition known repeated unknown
  have hunknown : (repeated.operators.filter fun u => u.2 ∉ Operator.names) = unknown := by decide
  have hrefused := (strict_and_lenient {} repeated).1 (namesUnknown unknown)
  rw [hunknown] at hrefused
  obtain ⟨hsame, _⟩ := (strict_and_lenient {} known).2.2 (by decide)
  obtain ⟨policy, hpolicy⟩ :
      ∃ policy, compile { strictOperators := true } known = .ok policy := ⟨_, rfl⟩
  exact ⟨⟨policy, hpolicy, hsame ▸ hpolicy⟩, hrefused.2 ⟨List.cons_ne_nil _ _, rfl⟩,
    by decide +kernel, _, rfl⟩

end Policy

end ManifestPolicy
