import ManifestPolicy.Proofs.PolicyLines

/-!
# What literals can change of a policy

The kind and the message of a rule and the values of its conditions are
written as literals; the rest of a policy is there without a look at them. If
the places of the literals are left open, the lines of a policy become molds,
and these are the same for rules that are alike but for kinds, messages and
values (`lineMolds_congr`). A policy is cast from the molds of its rules line
by line (`casts_lines`). That the lines correspond rests on the one property
of literals that matters here: no character of theirs is a control character,
so a literal neither ends its line nor begins another one.

Hence rules that are alike give policies with the same lines but for the
literals, whatever these hold (`like_rules_like_lines`).
-/

namespace ManifestPolicy

namespace Text

variable {sep : Char} {cs ds : List Char}

theorem length_splitAt (sep : Char) (cs : List Char) :
    (splitAt sep cs).length = cs.count sep + 1 := by
  induction cs with
  | nil => rfl
  | cons c cs ih =>
      rw [splitAt, List.count_cons]
      split
      · next hc => simp [hc, ih]
      · next hc =>
          cases hs : splitAt sep cs with
          | nil => exact absurd hs (splitAt_ne_nil sep cs)
          | cons first rest =>
              rw [hs] at ih
              simpa [hc] using ih

/-- What holds no separator goes into the first piece of what follows it. -/
theorem splitAt_append_of_not_mem {first : List Char} {rest : List (List Char)}
    (h : sep ∉ cs) (hs : splitAt sep ds = first :: rest) :
    splitAt sep (cs ++ ds) = (cs ++ first) :: rest := by
  induction cs with
  | nil => exact hs
  | cons c cs ih =>
      rw [List.mem_cons, not_or] at h
      rw [List.cons_append, splitAt, if_neg (Ne.symm h.1), ih h.2]
      rfl

end Text

/-! ## Rules that are alike -/

/-- Two conditions that compare alike, perhaps with different values. -/
structure Condition.Alike (c c' : Condition) : Prop where
  path_eq : c.path = c'.path
  operator_eq : c.operator = c'.operator
  valueFrom_eq : c.valueFrom = c'.valueFrom

/-- Two rules with the same conditions but for their values. -/
def Rule.Alike (r r' : Rule) : Prop := List.Forall₂ Condition.Alike r.conditions r'.conditions

/-- As many rules with the same conditions but for their values. -/
def RuleSet.Alike (rules rules' : RuleSet) : Prop :=
  List.Forall₂ Rule.Alike rules.rules rules'.rules

namespace Policy

/-! ## Molds -/

/-- A text with places that are left open for literals. -/
abbrev Mold := List (Option Char)

namespace Mold

/-- A text without such a place. -/
def text (cs : List Char) : Mold := cs.map some

/-- The place of a literal. -/
def literal : Mold := [none]

/-- The pieces of a mold between its line feeds. -/
def lines : Mold → List Mold
  | [] => [[]]
  | c :: m =>
    if c = some '\n' then [] :: lines m
    else match lines m with
      | first :: rest => (c :: first) :: rest
      | [] => [[c]]

/-- The text is what the mold says, with the literal of some value in each open place. -/
inductive Casts : Mold → List Char → Prop where
  | nil : Casts [] []
  | char (c : Char) {m : Mold} {cs : List Char} : Casts m cs → Casts (some c :: m) (c :: cs)
  | literal {v : Value} {lit : List Char} {m : Mold} {cs : List Char} :
      Literal.encode v = .ok lit → Text.NoControls lit → Casts m cs →
        Casts (none :: m) (lit ++ cs)

variable {m m' : Mold} {cs ds : List Char}

/-- Where no place is open there is nothing to choose. -/
theorem casts_text_iff : Casts (text cs) ds ↔ ds = cs := by
  induction cs generalizing ds with
  | nil =>
      constructor
      · intro h
        cases h
        rfl
      · rintro rfl
        exact .nil
  | cons c cs ih =>
      constructor
      · intro h
        cases h with
        | char _ h => rw [ih.1 h]
      · rintro rfl
        exact .char c (ih.2 rfl)

theorem casts_text (cs : List Char) : Casts (text cs) cs := casts_text_iff.2 rfl

theorem casts_literal {v : Value} (h : Literal.encode v = .ok cs) : Casts literal cs := by
  rw [← List.append_nil cs]
  exact .literal h (Literal.noControls_encode h) .nil

theorem casts_quotedString (s : String) : Casts literal (Json.quotedString s) :=
  casts_literal (v := .str s) rfl

theorem Casts.append (h : Casts m cs) (h' : Casts m' ds) : Casts (m ++ m') (cs ++ ds) := by
  induction h with
  | nil => exact h'
  | char c _ ih => exact .char c ih
  | literal hv hlit _ ih =>
      rw [List.append_assoc]
      exact .literal hv hlit ih

/-- What is cast from a mold has as many lines, and each is cast from its own part. -/
theorem Casts.lines (h : Casts m cs) :
    List.Forall₂ Casts m.lines (Text.splitAt '\n' cs) := by
  induction h with
  | nil => exact .cons .nil .nil
  | @char c m cs _ ih =>
      rw [Mold.lines, Text.splitAt]
      by_cases hc : c = '\n'
      · rw [if_pos (congrArg some hc), if_pos hc]
        exact .cons .nil ih
      · rw [if_neg fun e => hc (Option.some.inj e), if_neg hc]
        generalize m.lines = ms, Text.splitAt '\n' cs = ls at ih
        cases ih with
        | nil => exact .cons (.char c .nil) .nil
        | cons hfirst hrest => exact .cons (.char c hfirst) hrest
  | @literal v lit m cs hv hlit _ ih =>
      rw [Mold.lines, if_neg (by simp)]
      cases hs : Text.splitAt '\n' cs with
      | nil => exact absurd hs (Text.splitAt_ne_nil '\n' cs)
      | cons first rest =>
          rw [Text.splitAt_append_of_not_mem hlit.newline_not_mem hs]
          rw [hs] at ih
          generalize m.lines = ms at ih
          cases ih with
          | cons hfirst hrest => exact .cons (.literal hv hlit hfirst) hrest

/-- Texts that are themselves of several lines. -/
theorem casts_flatMap_lines {ms : List Mold} {ls : List (List Char)}
    (h : List.Forall₂ Casts ms ls) :
    List.Forall₂ Casts (ms.flatMap Mold.lines) (ls.flatMap (Text.splitAt '\n')) := by
  induction h with
  | nil => exact .nil
  | cons hl _ ih =>
      rw [List.flatMap_cons, List.flatMap_cons]
      exact List.rel_append hl.lines ih

end Mold

open Mold (Casts)

/-! ## The molds of a policy -/

/-- A condition compares with a literal unless its value is taken from elsewhere. -/
def operandMold (c : Condition) : Mold :=
  match c.source? with
  | some path => .text (Reference.ofPath path.toList)
  | none => .literal

/-- The mold of a guard, without its indent. -/
def guardMold (c : Condition) : Mold :=
  let field := Reference.ofPath c.path.toList
  match c.operator? with
  | some .exists => .text (field ++ " != null".toList)
  | some .regexMatch =>
    .text "regex.match(".toList ++ operandMold c ++ .text (", ".toList ++ field ++ [')'])
  | known =>
    let operator := (known.bind symbol?).getD c.operator
    .text (field ++ ' ' :: (operator.toList ++ [' '])) ++ operandMold c

/-- The molds of a clause. -/
def clauseMolds (d : Dialect) (r : Rule) : List Mold :=
  .text (clauseOpening d) :: (.text (indented "input.kind == ".toList) ++ .literal) ::
    (r.conditions.map (fun c => .text (indented []) ++ guardMold c) ++
      [.text (indented "reason := ".toList) ++ .literal, .text clauseClosing])

/-- The molds of the lines that rules declare. -/
def declaredMolds (s : PolicySettings) (rules : List Rule) : List Mold :=
  (header s).map .text ++ rules.flatMap (fun r => .text [] :: clauseMolds s.dialect r) ++
    [.text []]

/-- The molds of the lines that a policy has, for a text that is taken over as it stands may have
line feeds. -/
def lineMolds (s : PolicySettings) (rules : List Rule) : List Mold :=
  (declaredMolds s rules).flatMap Mold.lines

variable {s : PolicySettings} {c c' : Condition} {r r' : Rule}

theorem guardMold_congr (h : c.Alike c') : guardMold c = guardMold c' := by
  obtain ⟨hpath, hoperator, hfrom⟩ := h
  simp only [guardMold, operandMold, Condition.operator?, Condition.source?, hpath, hoperator,
    hfrom]

theorem clauseMolds_congr (d : Dialect) (h : r.Alike r') : clauseMolds d r = clauseMolds d r' := by
  have hguards : r.conditions.map (fun c => Mold.text (indented []) ++ guardMold c) =
      r'.conditions.map (fun c => Mold.text (indented []) ++ guardMold c) := by
    unfold Rule.Alike at h
    generalize r.conditions = cs, r'.conditions = cs' at h ⊢
    induction h with
    | nil => rfl
    | cons hc _ ih => rw [List.map_cons, List.map_cons, guardMold_congr hc, ih]
  rw [clauseMolds, clauseMolds, hguards]

/-- Kinds, messages and values do not matter. -/
theorem lineMolds_congr {rules rules' : RuleSet} (h : rules.Alike rules') :
    lineMolds s rules.rules = lineMolds s rules'.rules := by
  have hclauses : rules.rules.flatMap (fun r => Mold.text [] :: clauseMolds s.dialect r) =
      rules'.rules.flatMap (fun r => Mold.text [] :: clauseMolds s.dialect r) := by
    unfold RuleSet.Alike at h
    generalize rules.rules = rs, rules'.rules = rs' at h ⊢
    induction h with
    | nil => rfl
    | cons hr _ ih => rw [List.flatMap_cons, List.flatMap_cons, clauseMolds_congr _ hr, ih]
  rw [lineMolds, lineMolds, declaredMolds, declaredMolds, hclauses]

/-! ## A policy is cast from the molds of its rules -/

theorem casts_operand {cs : List Char} (h : operand c = .ok cs) : Casts (operandMold c) cs := by
  unfold operand at h
  unfold operandMold Condition.source?
  split at h
  · next path hpath =>
      rw [hpath, Option.filter_some]
      split at h
      · next hempty =>
          rw [hempty]
          exact Mold.casts_literal h
      · next hempty =>
          injection h with h
          rw [← h, if_pos (by simpa using hempty)]
          exact Mold.casts_text _
  · next hpath =>
      rw [hpath]
      exact Mold.casts_literal h

/-- A comparison, whatever stands left of the operand. -/
theorem casts_comparison {right : Line} (h : operand c = .ok right) (field operator : List Char) :
    Casts (.text (field ++ ' ' :: (operator ++ [' '])) ++ operandMold c)
      (field ++ ' ' :: (operator ++ ' ' :: right)) := by
  have hcast := (Mold.casts_text (field ++ ' ' :: (operator ++ [' ']))).append (casts_operand h)
  simpa only [List.append_assoc, List.cons_append, List.nil_append] using hcast

theorem casts_guard {g : Line} (h : guard c = .ok g) : Casts (guardMold c) g := by
  unfold guardMold
  cases ho : c.operator? with
  | none =>
      simp only [guard, ho] at h
      obtain ⟨right, hr, h⟩ := bind_eq_ok.1 h
      injection h with h
      rw [← h]
      exact casts_comparison hr _ _
  | some o =>
      simp only [guard, ho] at h
      cases o with
      | «exists» =>
          injection h with h
          rw [← h]
          exact Mold.casts_text _
      | regexMatch =>
          obtain ⟨pattern, hp, h⟩ := bind_eq_ok.1 h
          injection h with h
          rw [← h]
          simpa using ((Mold.casts_text "regex.match(".toList).append (casts_operand hp)).append
            (Mold.casts_text (", ".toList ++ Reference.ofPath c.path.toList ++ [')']))
      | equals | greaterThan | lessThan =>
          obtain ⟨right, hr, h⟩ := bind_eq_ok.1 h
          injection h with h
          rw [← h]
          exact casts_comparison hr _ _

theorem casts_clauseLines (d : Dialect) {guards : List Line} (h : Guards r.conditions guards) :
    List.Forall₂ Casts (clauseMolds d r) (clauseLines d r guards) := by
  have hguards : List.Forall₂ Casts
      (r.conditions.map fun c => Mold.text (indented []) ++ guardMold c)
      (guards.map indented) := by
    unfold Guards at h
    generalize r.conditions = cs at h ⊢
    induction h with
    | nil => exact .nil
    | cons hg _ ih => exact .cons ((Mold.casts_text (indented [])).append (casts_guard hg)) ih
  refine .cons (Mold.casts_text _) (.cons ?_ (List.rel_append hguards (.cons ?_ (.cons ?_ .nil))))
  · exact (Mold.casts_text (indented _)).append (Mold.casts_quotedString r.kind)
  · exact (Mold.casts_text (indented _)).append (Mold.casts_quotedString r.message)
  · exact Mold.casts_text _

theorem casts_declaredLines {rules : List Rule} {guards : List (List Line)}
    (h : List.Forall₂ (fun r gs => Guards r.conditions gs) rules guards) :
    List.Forall₂ Casts (declaredMolds s rules) (declaredLines s rules guards) := by
  have hheader : List.Forall₂ Casts ((header s).map Mold.text) (header s) := by
    induction header s with
    | nil => exact .nil
    | cons l ls ih => exact .cons (Mold.casts_text l) ih
  have hclauses : List.Forall₂ Casts
      (rules.flatMap fun r => Mold.text [] :: clauseMolds s.dialect r)
      ((List.zipWith (clauseLines s.dialect) rules guards).flatMap ([] :: ·)) := by
    induction h with
    | nil => exact .nil
    | cons hr _ ih =>
        rw [List.flatMap_cons, List.zipWith_cons_cons, List.flatMap_cons]
        exact List.rel_append (.cons .nil (casts_clauseLines s.dialect hr)) ih
  exact List.rel_append (List.rel_append hheader hclauses) (.cons .nil .nil)

/-- The lines of a policy are cast from the molds of its rules. -/
theorem casts_lines {rules : RuleSet} {policy : Policy} (h : compile s rules = .ok policy) :
    List.Forall₂ Casts (lineMolds s rules.rules) (Text.splitAt '\n' policy.source.toList) := by
  obtain ⟨guards, hguards, hsource⟩ := splitAt_source h
  rw [hsource]
  exact Mold.casts_flatMap_lines (casts_declaredLines hguards)

/-- Two rule sets that are alike but for names, kinds, messages and values give, if they compile,
policies with as many line feeds, and with lines that are cast from the same molds: they are the
same but for the literals of kinds, of messages, and of values that conditions compare with, and
these have no control characters. -/
theorem like_rules_like_lines {rules rules' : RuleSet} {policy policy' : Policy}
    (halike : rules.Alike rules') (h : compile s rules = .ok policy)
    (h' : compile s rules' = .ok policy') :
    policy.source.toList.count '\n' = policy'.source.toList.count '\n' ∧
      List.Forall₂ Casts (lineMolds s rules.rules) (Text.splitAt '\n' policy.source.toList) ∧
      List.Forall₂ Casts (lineMolds s rules.rules) (Text.splitAt '\n' policy'.source.toList) := by
  have hlines := casts_lines h
  have hlines' := casts_lines h'
  rw [← lineMolds_congr halike] at hlines'
  refine ⟨?_, hlines, hlines'⟩
  have hlength := hlines.length_eq.symm.trans hlines'.length_eq
  rw [Text.length_splitAt, Text.length_splitAt] at hlength
  omega

/-- A kind, a message and a value that try to close the line, the string or the clause. -/
theorem hostile_literals_like_lines :
    let conditions := fun value : Value => [(⟨"spec.x", "equals", value, none⟩ : Condition),
      ⟨"spec.image", "regex_match", value, some ""⟩, ⟨"spec.y", "less_than", value, some "spec.z"⟩]
    let tame : RuleSet := ⟨[⟨"a", "Pod", conditions (.int 1), "too many"⟩]⟩
    let hostile : RuleSet := ⟨[⟨"b", "Pod\"\n\x7d\n", conditions
      (.list [.str "\r\n\x7d\u0085\u2028", .map [(.str "\\\"", .null)]]), "\n\x7d\n\ndeny"⟩]⟩
    ∃ policy policy', tame.Alike hostile ∧ compile {} tame = .ok policy ∧
      compile {} hostile = .ok policy' ∧
      policy.source.toList.count '\n' = policy'.source.toList.count '\n' := by
  intro conditions tame hostile
  have halike : tame.Alike hostile := by
    have same (path operator : String) (v w : Value) (source : Option String) :
        Condition.Alike ⟨path, operator, v, source⟩ ⟨path, operator, w, source⟩ := ⟨rfl, rfl, rfl⟩
    exact .cons (.cons (same ..) (.cons (same ..) (.cons (same ..) .nil))) .nil
  obtain ⟨policy, hpolicy⟩ : ∃ policy, compile {} tame = .ok policy := ⟨_, rfl⟩
  obtain ⟨policy', hpolicy'⟩ : ∃ policy, compile {} hostile = .ok policy := ⟨_, rfl⟩
  exact ⟨policy, policy', halike, hpolicy, hpolicy',
    (like_rules_like_lines halike hpolicy hpolicy').1⟩

end Policy

end ManifestPolicy
