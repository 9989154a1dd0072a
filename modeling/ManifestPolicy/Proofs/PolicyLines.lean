import ManifestPolicy.Proofs.LiteralLine
import ManifestPolicy.Proofs.PathReferences
import ManifestPolicy.Proofs.PolicySource
import Mathlib.Data.List.Forall2

/-!
# The lines of a policy

Rules declare the lines of their policy: for each rule a blank line, the line
that opens a clause, one that guards the kind, one for each condition, one
with the reason, and the line that closes the clause. The policy is made of
these lines, each followed by a line feed, so taken apart at its line feeds it
comes apart into them, unless one of them has a line feed of its own
(`splitAt_source`).

A literal has none. But a guard takes over the path of its condition, the path
that a value is taken from, and an operator that is not known (unless such
rules are refused), as they stand. So a policy has the lines that its rules
declare if and only if those texts keep to their lines (`declared_lines`), and
then it opens one clause for each rule. Otherwise it may open more of them: a
path can close the clause that it stands in, and open another one
(`path_opens_clause`).
-/

namespace ManifestPolicy

/-! ## Taking apart what was put together -/

namespace Text

variable {sep : Char} {line : List Char} {lines : List (List Char)}

theorem flatMap_splitAt_eq_self_iff :
    lines.flatMap (splitAt sep) = lines ↔ ∀ l ∈ lines, sep ∉ l := by
  constructor
  · intro h l hl
    rw [← h] at hl
    obtain ⟨_, _, hl⟩ := List.mem_flatMap.1 hl
    exact not_mem_of_mem_splitAt hl
  · intro h
    induction lines with
    | nil => rfl
    | cons l lines ih =>
        rw [List.flatMap_cons, splitAt_of_not_mem (h l List.mem_cons_self),
          ih fun m hm => h m (List.mem_cons_of_mem _ hm)]
        rfl

/-- A line without a separator stays a line. -/
theorem count_le_count_flatMap_splitAt (h : sep ∉ line) :
    lines.count line ≤ (lines.flatMap (splitAt sep)).count line := by
  induction lines with
  | nil => exact Nat.le_refl 0
  | cons l lines ih =>
      rw [List.count_cons, List.flatMap_cons, List.count_append]
      split
      · next hl =>
          rw [eq_of_beq hl, splitAt_of_not_mem h, List.count_singleton_self]
          omega
      · omega

end Text

/-! ## What a condition passes on -/

/-- The other path that a value is taken from. -/
def Condition.source? (c : Condition) : Option String := c.valueFrom.filter fun p => !p.isEmpty

/-- The texts that the guard of a condition takes over as they stand: known operators have
symbols of their own, and that something is there is not compared with anything. -/
def Condition.pasted (c : Condition) : List String :=
  match c.operator? with
  | some .exists => [c.path]
  | some _ => c.path :: c.source?.toList
  | none => c.path :: c.operator :: c.source?.toList

/-- Every text that a guard takes over as it stands is one line. -/
def RuleSet.KeepsToLines (rules : RuleSet) : Prop :=
  ∀ r ∈ rules.rules, ∀ c ∈ r.conditions, ∀ text ∈ c.pasted, '\n' ∉ text.toList

namespace Policy

variable {s : PolicySettings} {d : Dialect} {c : Condition} {r : Rule}

theorem newline_mem_operand {cs : List Char} (h : operand c = .ok cs) :
    '\n' ∈ cs ↔ ∃ p ∈ c.source?, '\n' ∈ p.toList := by
  unfold operand at h
  unfold Condition.source?
  split at h
  · next p hp =>
      rw [hp, Option.filter_some]
      split at h
      · next hempty =>
          rw [hempty]
          exact iff_of_false (Literal.newline_not_mem_encode h) fun ⟨_, hp, _⟩ => nomatch hp
      · next hempty =>
          injection h with h
          rw [← h, Reference.newline_mem_ofPath, if_pos (by simpa using hempty)]
          simp
  · next hp =>
      rw [hp]
      exact iff_of_false (Literal.newline_not_mem_encode h) fun ⟨_, hp, _⟩ => nomatch hp

/-- A guard has a line feed if it takes one over. -/
theorem newline_mem_guard {g : Line} (h : guard c = .ok g) :
    '\n' ∈ g ↔ ∃ text ∈ c.pasted, '\n' ∈ text.toList := by
  unfold Condition.pasted
  cases ho : c.operator? with
  | none =>
      simp only [guard, ho] at h
      obtain ⟨right, hr, h⟩ := bind_eq_ok.1 h
      injection h with h
      simp [← h, Reference.newline_mem_ofPath, newline_mem_operand hr]
  | some o =>
      simp only [guard, ho] at h
      match o with
      | .exists =>
          injection h with h
          simp [← h, Reference.newline_mem_ofPath]
      | .regexMatch =>
          obtain ⟨pattern, hp, h⟩ := bind_eq_ok.1 h
          injection h with h
          simp [← h, Reference.newline_mem_ofPath, newline_mem_operand hp, or_comm]
      | .equals | .greaterThan | .lessThan =>
          obtain ⟨right, hr, h⟩ := bind_eq_ok.1 h
          injection h with h
          simp [← h, symbol?, Reference.newline_mem_ofPath, newline_mem_operand hr]

/-! ## The lines that are declared -/

/-- The clause of a rule with the guards of its conditions. -/
def clauseLines (d : Dialect) (r : Rule) (guards : List Line) : List Line :=
  clauseOpening d :: kindLine r :: (guards.map indented ++ [reasonLine r, clauseClosing])

/-- The lines that rules declare: those of the header, a blank line before each clause, and what
comes behind the last line feed. -/
def declaredLines (s : PolicySettings) (rules : List Rule) (guards : List (List Line)) :
    List Line :=
  header s ++ (List.zipWith (clauseLines s.dialect) rules guards).flatMap ([] :: ·) ++ [[]]

/-- The guards of conditions, one for each. -/
def Guards (conditions : List Condition) (guards : List Line) : Prop :=
  List.Forall₂ (fun c g => guard c = .ok g) conditions guards

theorem clause_eq_ok {lines : List Line} (h : clause d r = .ok lines) :
    ∃ guards, Guards r.conditions guards ∧ lines = clauseLines d r guards := by
  obtain ⟨guards, hg, h⟩ := bind_eq_ok.1 h
  injection h with h
  exact ⟨guards, forall₂_of_mapM hg, h.symm⟩

theorem clauses_eq_ok {rs : List Rule} {clauses : List (List Line)}
    (h : List.Forall₂ (fun r lines => clause d r = .ok lines) rs clauses) :
    ∃ guards, List.Forall₂ (fun r gs => Guards r.conditions gs) rs guards ∧
      clauses = List.zipWith (clauseLines d) rs guards := by
  induction h with
  | nil => exact ⟨[], .nil, rfl⟩
  | cons hr _ ih =>
      obtain ⟨gs, hgs, hlines⟩ := clause_eq_ok hr
      obtain ⟨guards, hguards, hclauses⟩ := ih
      exact ⟨gs :: guards, .cons hgs hguards, by rw [hlines, hclauses]; rfl⟩

theorem splitAt_joinLines {ls : List Line} (hne : ls ≠ []) (cs : List Char) :
    Text.splitAt '\n' (joinLines ls ++ '\n' :: cs) =
      ls.flatMap (Text.splitAt '\n') ++ Text.splitAt '\n' cs := by
  induction ls with
  | nil => exact absurd rfl hne
  | cons l ls ih =>
      cases ls with
      | nil =>
          rw [List.flatMap_singleton]
          exact Text.splitAt_append_sep l cs
      | cons m ls =>
          rw [joinLines_cons, List.append_assoc, List.cons_append, Text.splitAt_append_sep,
            ih (List.cons_ne_nil _ _), ← List.append_assoc]
          rfl

theorem splitAt_joinParts {p : List Line} {ps : List (List Line)} (hp : p ≠ [])
    (hps : ∀ q ∈ ps, q ≠ []) :
    Text.splitAt '\n' (joinParts (p :: ps)) =
      (p ++ ps.flatMap ([] :: ·) ++ [[]]).flatMap (Text.splitAt '\n') := by
  have blank (cs : List Char) : Text.splitAt '\n' ('\n' :: cs) = [] :: Text.splitAt '\n' cs :=
    Text.splitAt_append_sep [] cs
  induction ps generalizing p with
  | nil =>
      rw [joinParts_cons, if_pos rfl, splitAt_joinLines hp]
      simp [Text.splitAt]
  | cons q ps ih =>
      rw [joinParts_cons, if_neg (List.cons_ne_nil _ _), splitAt_joinLines hp, blank,
        ih (hps q List.mem_cons_self) fun q' hq' => hps q' (List.mem_cons_of_mem _ hq')]
      simp [Text.splitAt]

/-- A policy comes apart into the lines that its rules declare, and those that their line feeds
make of them. -/
theorem splitAt_source {rules : RuleSet} {policy : Policy} (h : compile s rules = .ok policy) :
    ∃ guards, List.Forall₂ (fun r gs => Guards r.conditions gs) rules.rules guards ∧
      Text.splitAt '\n' policy.source.toList =
        (declaredLines s rules.rules guards).flatMap (Text.splitAt '\n') := by
  obtain ⟨clauses, hclauses, hsource⟩ := compile_source h
  obtain ⟨guards, hguards, rfl⟩ := clauses_eq_ok (forall₂_of_mapM hclauses)
  refine ⟨guards, hguards, ?_⟩
  rw [hsource]
  refine splitAt_joinParts (by cases hd : s.dialect <;> simp [header, hd]) fun q hq => ?_
  rw [← List.map_uncurry_zip_eq_zipWith] at hq
  obtain ⟨_, _, rfl⟩ := List.mem_map.1 hq
  exact List.cons_ne_nil _ _

/-! ## Which lines are whole -/

theorem newline_not_mem_header (hs : Settings.Dotted s.package) : ∀ l ∈ header s, '\n' ∉ l := by
  have package : '\n' ∉ "package ".toList ++ s.package.toList := newline_not_mem_packageLine hs
  unfold header
  cases s.dialect with
  | v0 => simpa using package
  | v1 => simpa using package

theorem newline_not_mem_indented {l : Line} : '\n' ∉ indented l ↔ '\n' ∉ l := by
  simp [indented]

/-- A string does not break the line that it is written on. -/
theorem newline_not_mem_quotedLine {label : Line} (h : '\n' ∉ label) (text : String) :
    '\n' ∉ indented (label ++ Json.quotedString text) := by
  rw [newline_not_mem_indented, List.mem_append, not_or]
  exact ⟨h, Json.newline_not_mem_quotedString text⟩

/-- Of the lines of a clause only the guards may have a line feed. -/
theorem newline_not_mem_clauseLines_iff {guards : List Line} :
    (∀ l ∈ clauseLines d r guards, '\n' ∉ l) ↔ ∀ g ∈ guards, '\n' ∉ g := by
  have hopening : '\n' ∉ clauseOpening d := by cases d <;> decide
  have hkind : '\n' ∉ kindLine r := newline_not_mem_quotedLine (by decide) r.kind
  have hreason : '\n' ∉ reasonLine r := newline_not_mem_quotedLine (by decide) r.message
  have hclosing : '\n' ∉ clauseClosing := by decide
  simp only [clauseLines, List.forall_mem_cons, List.forall_mem_append, List.forall_mem_map,
    newline_not_mem_indented, hopening, hkind, hreason, hclosing, List.not_mem_nil,
    false_imp_iff, implies_true, not_false_eq_true, true_and, and_true]

theorem newline_not_mem_guards_iff {conditions : List Condition} {guards : List Line}
    (h : Guards conditions guards) :
    (∀ g ∈ guards, '\n' ∉ g) ↔
      ∀ c ∈ conditions, ∀ text ∈ c.pasted, '\n' ∉ text.toList := by
  induction h with
  | nil => exact iff_of_true (fun _ h => nomatch h) fun _ h => nomatch h
  | cons hg _ ih =>
      rw [List.forall_mem_cons, List.forall_mem_cons, ih, newline_mem_guard hg]
      simp only [not_exists, not_and]

/-- The declared lines are lines if the texts that are taken over are. -/
theorem newline_not_mem_declaredLines_iff {rules : RuleSet} {guards : List (List Line)}
    (hs : Settings.Dotted s.package)
    (h : List.Forall₂ (fun r gs => Guards r.conditions gs) rules.rules guards) :
    (∀ l ∈ declaredLines s rules.rules guards, '\n' ∉ l) ↔ rules.KeepsToLines := by
  simp only [declaredLines, RuleSet.KeepsToLines, List.forall_mem_append, List.forall_mem_cons,
    iff_true_intro (newline_not_mem_header hs), List.not_mem_nil, false_imp_iff, implies_true,
    not_false_eq_true, true_and, and_true]
  generalize rules.rules = rs at h
  induction h with
  | nil => exact iff_of_true (fun _ h => nomatch h) fun _ h => nomatch h
  | cons hr _ ih =>
      rw [List.zipWith_cons_cons, List.flatMap_cons, List.forall_mem_append,
        List.forall_mem_cons, List.forall_mem_cons, newline_not_mem_clauseLines_iff,
        newline_not_mem_guards_iff hr, ih]
      simp

/-! ## Opening clauses -/

theorem clauseOpening_ne_indented (d : Dialect) (l : Line) : clauseOpening d ≠ indented l := by
  cases d <;> exact fun h => by cases h

theorem count_clauseLines (guards : List Line) :
    (clauseLines d r guards).count (clauseOpening d) = 1 := by
  rw [clauseLines, List.count_cons_self, List.count_eq_zero.2]
  have hclosing : clauseOpening d ≠ clauseClosing := by
    cases d <;> exact fun h => by cases h
  simp [kindLine, reasonLine, clauseOpening_ne_indented, (clauseOpening_ne_indented _ _).symm,
    hclosing]

theorem count_declaredLines {rs : List Rule} {guards : List (List Line)}
    (h : rs.length = guards.length) :
    (declaredLines s rs guards).count (clauseOpening s.dialect) = rs.length := by
  have hheader : (header s).count (clauseOpening s.dialect) = 0 := by
    rw [List.count_eq_zero]
    cases hd : s.dialect with
    | v0 =>
        simp only [header, hd, List.mem_singleton]
        exact fun h => by cases h
    | v1 =>
        simp only [header, hd, List.mem_cons, List.not_mem_nil, or_false, not_or]
        exact ⟨fun h => (by cases h), fun h => (by cases h), by decide⟩
  have hblank : clauseOpening s.dialect ≠ [] := by cases s.dialect <;> decide
  rw [declaredLines, List.count_append, List.count_append, hheader,
    List.count_eq_zero.2 (show clauseOpening s.dialect ∉ [[]] by simpa using hblank)]
  induction rs generalizing guards with
  | nil => rfl
  | cons r rs ih =>
      cases guards with
      | nil => cases h
      | cons gs guards =>
          rw [List.zipWith_cons_cons, List.flatMap_cons, List.count_append,
            List.count_cons_of_ne hblank.symm, count_clauseLines]
          have := ih (Nat.succ.inj h)
          rw [List.length_cons]
          omega

/-! ## The lines of a policy -/

theorem ruleCount_compile {rules : RuleSet} {policy : Policy} (h : compile s rules = .ok policy) :
    policy.ruleCount = rules.rules.length := by
  unfold compile at h
  split at h
  · cases h
  · split at h
    · cases h
    · injection h with h
      rw [← h]

/-- A policy that settings allow has the lines that its rules declare if and only if the texts
that are taken over as they stand keep to their lines. No clause is ever missing, and if they do
there is no other one. -/
theorem declared_lines {es : List (Value × Value)} {settings : Settings} {rules : RuleSet}
    {policy : Policy} (hes : Settings.ofEntries es = .ok settings)
    (h : compile settings.policies rules = .ok policy) :
    ∃ guards, List.Forall₂ (fun r gs => Guards r.conditions gs) rules.rules guards ∧
      (Text.splitAt '\n' policy.source.toList =
          declaredLines settings.policies rules.rules guards ↔ rules.KeepsToLines) ∧
      policy.ruleCount ≤ (Text.splitAt '\n' policy.source.toList).count
        (clauseOpening settings.policies.dialect) ∧
      (rules.KeepsToLines → (Text.splitAt '\n' policy.source.toList).count
        (clauseOpening settings.policies.dialect) = policy.ruleCount) := by
  have hs := Settings.package_of_ofEntries hes
  obtain ⟨guards, hguards, hsource⟩ := splitAt_source h
  have hwhole : Text.splitAt '\n' policy.source.toList =
      declaredLines settings.policies rules.rules guards ↔ rules.KeepsToLines := by
    rw [hsource, Text.flatMap_splitAt_eq_self_iff, newline_not_mem_declaredLines_iff hs hguards]
  have hcount := count_declaredLines (s := settings.policies) hguards.length_eq
  rw [← ruleCount_compile h] at hcount
  have hopening : '\n' ∉ clauseOpening settings.policies.dialect := by
    cases settings.policies.dialect <;> decide
  refine ⟨guards, hguards, hwhole, ?_, fun hkeeps => ?_⟩
  · rw [hsource, ← hcount]
    exact Text.count_le_count_flatMap_splitAt hopening
  · rw [hwhole.2 hkeeps, hcount]

/-- A name, a kind, a message and a value may hold the lines of a clause. -/
theorem declared_lines_quoted :
    let clause := "\n\x7d\n\ndeny[reason] \x7b\n"
    let rules : RuleSet := ⟨[⟨clause, clause, [⟨"spec.x", "equals", .str clause, none⟩,
      ⟨"spec.y", "regex_match", .null, some "spec.z[*]"⟩], clause⟩]⟩
    ∃ policy, Settings.ofEntries [] = .ok {} ∧ compile {} rules = .ok policy ∧
      rules.KeepsToLines ∧ (Text.splitAt '\n' policy.source.toList).count
        (clauseOpening .v0) = policy.ruleCount := by
  intro clause rules
  have hes : Settings.ofEntries [] = .ok {} := rfl
  have hkeeps : rules.KeepsToLines := by
    unfold RuleSet.KeepsToLines
    decide +kernel
  obtain ⟨policy, hpolicy⟩ : ∃ policy, compile ({} : Settings).policies rules = .ok policy :=
    ⟨_, rfl⟩
  obtain ⟨_, _, _, _, hcount⟩ := declared_lines hes hpolicy
  exact ⟨policy, hes, hpolicy, hkeeps, hcount hkeeps⟩

/-- A path may close the clause of its rule and open another one. -/
theorem path_opens_clause :
    let path := "spec.x != null\n\x7d\n\ndeny[reason] \x7b\n  input.y"
    let rule : Rule := ⟨"a", "Pod", [⟨path, "exists", .null, none⟩], "m"⟩
    let guards := [[("input." ++ path ++ " != null").toList]]
    ∃ policy, compile { strictOperators := true } ⟨[rule]⟩ = .ok policy ∧
      List.Forall₂ (fun r gs => Guards r.conditions gs) [rule] guards ∧
      Text.splitAt '\n' policy.source.toList ≠
        declaredLines { strictOperators := true } [rule] guards ∧
      policy.ruleCount = 1 ∧
      (Text.splitAt '\n' policy.source.toList).count (clauseOpening .v0) = 2 := by
  intro path rule guards
  refine ⟨_, rfl, .cons (.cons ?_ .nil) .nil, ?_, rfl, ?_⟩
  · decide +kernel
  · change Text.splitAt '\n' (String.ofList _).toList ≠ _
    rw [String.toList_ofList]
    decide +kernel
  · change (Text.splitAt '\n' (String.ofList _).toList).count _ = 2
    rw [String.toList_ofList]
    decide +kernel

end Policy

end ManifestPolicy
