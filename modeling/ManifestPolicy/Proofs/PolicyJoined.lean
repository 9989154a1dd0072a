import ManifestPolicy.Proofs.LiteralFaults

/-!
# Policies of joined rules

A policy is a header, a clause for each rule behind a blank line, and a last
line feed. Nothing that is written of one rule depends on another one, and
rules are refused one by one as well. So rules that stand one after the other
have the policies of both parts, joined where the first one ends and the
header of the second one does (`compile_joined`). By induction a policy is put
together from those of its single rules.
-/

namespace ManifestPolicy

namespace Policy

variable {s : PolicySettings} {rs as bs : List Rule} {policy whole a b : Policy}

/-! ## What a policy is made of -/

/-- The text before the clauses. -/
def headerText (s : PolicySettings) : String := String.ofList (joinLines (header s))

/-- The text of a clause, behind its blank line. -/
def clauseText (lines : List Line) : String := "\n\n" ++ String.ofList (joinLines lines)

/-- The text of clauses. -/
def clausesText (clauses : List (List Line)) : String := String.join (clauses.map clauseText)

theorem clausesText_append (cs ds : List (List Line)) :
    clausesText (cs ++ ds) = clausesText cs ++ clausesText ds := by
  rw [clausesText, List.map_append, String.join_append]
  rfl

theorem clausesText_cons (c : List Line) (cs : List (List Line)) :
    clausesText (c :: cs) = clauseText c ++ clausesText cs := String.join_cons

theorem ofList_joinParts (p : List Line) (ps : List (List Line)) :
    String.ofList (joinParts (p :: ps)) =
      String.ofList (joinLines p) ++ clausesText ps ++ "\n" := by
  induction ps generalizing p with
  | nil =>
      rw [joinParts, String.ofList_append, clausesText, List.map_nil, String.join_nil,
        String.append_empty]
  | cons q ps ih =>
      have hparts : joinParts (p :: q :: ps) =
          joinLines p ++ (['\n', '\n'] ++ joinParts (q :: ps)) := rfl
      rw [hparts, String.ofList_append, String.ofList_append, ih, clausesText_cons, clauseText]
      simp only [String.append_assoc]

/-- The policy that consists of the clauses. -/
def ofClauses (s : PolicySettings) (clauses : List (List Line)) : Policy :=
  ⟨s.package, headerText s ++ clausesText clauses ++ "\n", clauses.length⟩

/-- Rules compile to their clauses unless they are refused. -/
theorem compile_eq_ok_iff : compile s ⟨rs⟩ = .ok policy ↔ ¬ Refuses s ⟨rs⟩ ∧
    ∃ clauses, rs.mapM (clause s.dialect) = .ok clauses ∧ policy = ofClauses s clauses := by
  by_cases hrefuses : Refuses s ⟨rs⟩
  · rw [compile_of_refuses hrefuses]
    exact iff_of_false (by intro h; cases h) fun h => h.1 hrefuses
  · rw [compile_of_not_refuses hrefuses, and_iff_right hrefuses]
    dsimp only
    cases hclauses : rs.mapM (clause s.dialect) with
    | error f => exact iff_of_false (by intro h; cases h) (by rintro ⟨_, h, _⟩; cases h)
    | ok clauses =>
        have hpolicy : (⟨s.package, String.ofList (joinParts (header s :: clauses)), rs.length⟩ :
            Policy) = ofClauses s clauses := by
          rw [ofList_joinParts, (forall₂_of_mapM hclauses).length_eq]
          rfl
        dsimp only
        rw [hpolicy]
        constructor
        · rintro ⟨⟩
          exact ⟨clauses, rfl, rfl⟩
        · rintro ⟨_, ⟨⟩, rfl⟩
          rfl

theorem refuses_append :
    Refuses s ⟨as ++ bs⟩ ↔ Refuses s ⟨as⟩ ∨ Refuses s ⟨bs⟩ := by
  have hunknown : (RuleSet.mk (as ++ bs)).unknownOperators =
      (RuleSet.mk as).unknownOperators ++ (RuleSet.mk bs).unknownOperators := List.flatMap_append
  rw [Refuses, Refuses, Refuses, hunknown, ← and_or_left, Ne, List.append_eq_nil_iff, not_and_or]

/-! ## Joining policies -/

/-- The policy is the first one up to its last line feed, and from there on the second one from
behind its header. -/
structure Joins (s : PolicySettings) (whole a b : Policy) : Prop where
  package_eq : whole.package = a.package ∧ whole.package = b.package
  source_eq : ∃ front back, a.source = front ++ "\n" ∧ b.source = headerText s ++ back ∧
    whole.source = front ++ back
  ruleCount_eq : whole.ruleCount = a.ruleCount + b.ruleCount

theorem joins_ofClauses (s : PolicySettings) (cs ds : List (List Line)) :
    Joins s (ofClauses s (cs ++ ds)) (ofClauses s cs) (ofClauses s ds) where
  package_eq := ⟨rfl, rfl⟩
  source_eq := by
    refine ⟨headerText s ++ clausesText cs, clausesText ds ++ "\n", rfl, String.append_assoc, ?_⟩
    rw [ofClauses, clausesText_append]
    simp only [String.append_assoc]
  ruleCount_eq := List.length_append

/-- There is one way to join two policies at most. -/
theorem Joins.unique {whole' : Policy} (h : Joins s whole a b) (h' : Joins s whole' a b) :
    whole = whole' := by
  obtain ⟨package, source, ruleCount⟩ := whole
  obtain ⟨package', source', ruleCount'⟩ := whole'
  obtain ⟨front, back, ha, hb, hsource⟩ := h.source_eq
  obtain ⟨front', back', ha', hb', hsource'⟩ := h'.source_eq
  have hfront : front = front' := (String.append_left_inj _).1 (ha.symm.trans ha')
  have hback : back = back' := (String.append_right_inj _).1 (hb.symm.trans hb')
  rw [Policy.mk.injEq]
  refine ⟨h.package_eq.1.trans h'.package_eq.1.symm, ?_, h.ruleCount_eq.trans h'.ruleCount_eq.symm⟩
  calc source = front ++ back := hsource
    _ = front' ++ back' := by rw [hfront, hback]
    _ = source' := hsource'.symm

/-- Rules one after the other compile exactly if both parts do, and to their policies joined. -/
theorem compile_append_eq_ok_iff : compile s ⟨as ++ bs⟩ = .ok whole ↔
    ∃ a b, compile s ⟨as⟩ = .ok a ∧ compile s ⟨bs⟩ = .ok b ∧ Joins s whole a b := by
  rw [compile_eq_ok_iff, refuses_append, not_or]
  constructor
  · rintro ⟨⟨has, hbs⟩, _, hclauses, rfl⟩
    obtain ⟨cs, ds, hcs, hds, rfl⟩ := mapM_append_eq_ok.1 hclauses
    exact ⟨_, _, compile_eq_ok_iff.2 ⟨has, cs, hcs, rfl⟩, compile_eq_ok_iff.2 ⟨hbs, ds, hds, rfl⟩,
      joins_ofClauses s cs ds⟩
  · rintro ⟨a, b, ha, hb, hjoins⟩
    obtain ⟨has, cs, hcs, rfl⟩ := compile_eq_ok_iff.1 ha
    obtain ⟨hbs, ds, hds, rfl⟩ := compile_eq_ok_iff.1 hb
    exact ⟨⟨has, hbs⟩, cs ++ ds, mapM_append_eq_ok.2 ⟨cs, ds, hcs, hds, rfl⟩,
      hjoins.unique (joins_ofClauses s cs ds)⟩

/-! ## Policies of single rules -/

/-- The text is what the rule adds to the header, if it is the only rule. -/
def AddsText (s : PolicySettings) (r : Rule) (text : String) : Prop :=
  ∃ p, compile s ⟨[r]⟩ = .ok p ∧ p.source = headerText s ++ text ++ "\n"

theorem exists_source (h : compile s ⟨rs⟩ = .ok policy) :
    ∃ text, policy.source = headerText s ++ text ++ "\n" := by
  obtain ⟨_, clauses, _, rfl⟩ := compile_eq_ok_iff.1 h
  exact ⟨_, rfl⟩

/-- Each rule adds the text that it adds alone, in the order of the rules. -/
theorem exists_texts (h : compile s ⟨rs⟩ = .ok policy) :
    ∃ texts, List.Forall₂ (AddsText s) rs texts ∧
      policy.source = headerText s ++ String.join texts ++ "\n" := by
  induction rs generalizing policy with
  | nil =>
      obtain ⟨_, _, ⟨⟩, rfl⟩ := compile_eq_ok_iff.1 h
      exact ⟨[], .nil, rfl⟩
  | cons r rs ih =>
      have hjoined : compile s ⟨[r] ++ rs⟩ = .ok policy := h
      obtain ⟨a, b, ha, hb, _, ⟨front, back, hfront, hback, hsource⟩, _⟩ :=
        compile_append_eq_ok_iff.1 hjoined
      obtain ⟨text, htext⟩ := exists_source ha
      obtain ⟨texts, htexts, hrest⟩ := ih hb
      refine ⟨text :: texts, .cons ⟨a, ha, htext⟩ htexts, ?_⟩
      have hhead : front = headerText s ++ text :=
        (String.append_left_inj _).1 (hfront.symm.trans htext)
      have htail : back = String.join texts ++ "\n" := by
        rw [String.append_assoc] at hrest
        exact (String.append_right_inj _).1 (hback.symm.trans hrest)
      rw [hsource, hhead, htail, String.join_cons]
      simp only [String.append_assoc]

/-- Rules that stand one after the other compile exactly if both parts do, and then to the first
policy without its last line feed, followed by the second one without its header; the numbers of
rules add up. What a rule adds to a policy is what it adds if it is the only one, and it is there
once for each rule, in the order of the rules. -/
theorem compile_joined (s : PolicySettings) (as bs : List Rule) (whole : Policy) :
    (compile s ⟨as ++ bs⟩ = .ok whole ↔
      ∃ a b, compile s ⟨as⟩ = .ok a ∧ compile s ⟨bs⟩ = .ok b ∧ Joins s whole a b) ∧
    (compile s ⟨as ++ bs⟩ = .ok whole →
      ∃ texts, List.Forall₂ (AddsText s) (as ++ bs) texts ∧
        whole.source = headerText s ++ String.join texts ++ "\n") :=
  ⟨compile_append_eq_ok_iff, exists_texts⟩

/-- The same rule twice, and then an operator that is passed on, in the newer dialect. -/
theorem compile_joined_same_rule :
    let s : PolicySettings := { strictOperators := false, dialect := .v1 }
    let as : List Rule := List.replicate 2 ⟨"a", "Pod", [⟨"spec.x", "exists", .null, none⟩], "m"⟩
    let bs : List Rule := [⟨"b", "Job", [⟨"spec.y[*]", ">=", .int 2, none⟩], "n"⟩]
    ∃ whole a b, compile s ⟨as ++ bs⟩ = .ok whole ∧ compile s ⟨as⟩ = .ok a ∧
      compile s ⟨bs⟩ = .ok b ∧ Joins s whole a b ∧ whole.ruleCount = 3 := by
  intro s as bs
  obtain ⟨whole, hwhole⟩ : ∃ whole, compile s ⟨as ++ bs⟩ = .ok whole := ⟨_, rfl⟩
  obtain ⟨a, b, ha, hb, hjoins⟩ := (compile_joined s as bs whole).1.1 hwhole
  refine ⟨whole, a, b, hwhole, ha, hb, hjoins, ?_⟩
  rw [hjoins.ruleCount_eq, ruleCount_compile ha, ruleCount_compile hb]
  rfl

end Policy

end ManifestPolicy
