import Mathlib.Algebra.Group.Nat.Defs
import ManifestPolicy.Proofs.IntegerLimit
import ManifestPolicy.Proofs.PolicyLines
import ManifestPolicy.Rule.Document
import ManifestPolicy.Settings.Check

/-!
# Why rules do not compile

Not every value that a rule document can hold has a literal: dates and times,
bytes, sets, mappings with such keys, containers that occur inside themselves
and integers of very many digits have none. The writer of literals stops at
the first part of that sort. Here all of them are listed, in the order in
which a literal is written, without a look at the writer (`Literal.faults`);
that the writer ends with the head of this list, and only if there is one, is
shown for each of its parts (`Errs`) and put together by induction on the
value. The list of a rule set is that of the values which its conditions write
as literals.

Rules compile exactly if their list is empty, unless strict settings refuse an
operator before anything is written (`compile_outcome`).
-/

namespace ManifestPolicy

namespace Literal

/-! ## Programs and their faults -/

/-- The program ends with the first of the faults, and well if there are none. -/
inductive Errs {α : Type} : Except Fault α → List Fault → Prop where
  | ok (a : α) : Errs (.ok a) []
  | error (f : Fault) (fs : List Fault) : Errs (.error f) (f :: fs)

variable {α β : Type} {x : Except Fault α} {fs gs : List Fault}

theorem Errs.bind {f : α → Except Fault β} (h : Errs x fs) (hf : ∀ a, Errs (f a) gs) :
    Errs (x >>= f) (fs ++ gs) := by
  cases h with
  | ok a => exact hf a
  | error e fs => exact .error e (fs ++ gs)

/-- What follows cannot fail. -/
theorem Errs.map (f : α → β) (h : Errs x fs) : Errs (x >>= fun a => .ok (f a)) fs := by
  rw [← List.append_nil fs]
  exact h.bind fun a => .ok (f a)

theorem Errs.mapM {f : α → Except Fault β} {g : α → List Fault} (h : ∀ a, Errs (f a) (g a))
    (as : List α) : Errs (as.mapM f) (as.flatMap g) := by
  induction as with
  | nil => exact .ok []
  | cons a as ih =>
      rw [List.mapM_cons, List.flatMap_cons]
      exact (h a).bind fun b => ih.map (b :: ·)

/-! ## The faults of a value -/

/-- The fault of an integer that is too long to be written. -/
def integerFaults (n : Int) : List Fault :=
  if n.natAbs < 10 ^ Integer.digitLimit then [] else [.integer .writeLimit]

/-- The faults of a key. -/
def keyFaults : Value → List Fault
  | .null | .bool _ | .float _ | .str _ => []
  | .int n => integerFaults n
  | v => [.key (keyTypeName v)]

mutual

/-- The faults of a value, in the order in which its literal is written. -/
def faults : Value → List Fault
  | .null | .bool _ | .float _ | .str _ => []
  | .int n => integerFaults n
  | .list items | .tuple items => itemsFaults items
  | .map entries => entriesFaults entries
  | .cycle => [.cycle]
  | v => [.value v.typeName]

/-- The faults of items. -/
def itemsFaults : List Value → List Fault
  | [] => []
  | v :: vs => faults v ++ itemsFaults vs

/-- The faults of entries, each key before its value. -/
def entriesFaults : List (Value × Value) → List Fault
  | [] => []
  | (k, v) :: es => keyFaults k ++ (faults v ++ entriesFaults es)

end

theorem errs_integer (n : Int) : Errs (integer n) (integerFaults n) := by
  have hlength : (toString n.natAbs).length ≤ Integer.digitLimit ↔
      n.natAbs < 10 ^ Integer.digitLimit := length_decimal_le (by decide)
  unfold integer Integer.write Integer.write? integerFaults
  generalize 10 ^ Integer.digitLimit = bound at hlength ⊢
  by_cases hn : n.natAbs < bound
  · rw [if_pos hn, if_pos (hlength.2 hn)]
    exact .ok _
  · rw [if_neg hn, if_neg (mt hlength.1 hn)]
    exact .error _ _

theorem errs_key (v : Value) : Errs (key v) (keyFaults v) := by
  cases v with
  | int n => exact (errs_integer n).map _
  | null | bool | float | str => exact .ok _
  | bytes | date | time | list | tuple | set | map | cycle => exact .error _ _

mutual

/-- The writer of literals ends with the first fault of its value. -/
theorem errs_encode (v : Value) : Errs (encode v) (faults v) := by
  match v with
  | .null | .bool _ | .float _ | .str _ => exact .ok _
  | .int n => exact errs_integer n
  | .list items | .tuple items => exact (errs_encodeItems items).map _
  | .map entries => exact (errs_encodeEntries entries).map _
  | .bytes _ | .date _ | .time _ | .set _ | .cycle => exact .error _ _

theorem errs_encodeItems (vs : List Value) : Errs (encodeItems vs) (itemsFaults vs) := by
  match vs with
  | [] => exact .ok _
  | [v] =>
      show Errs (encode v) (faults v ++ [])
      rw [List.append_nil]
      exact errs_encode v
  | v :: w :: vs =>
      exact (errs_encode v).bind fun _ => (errs_encodeItems (w :: vs)).map _

theorem errs_encodeEntries (es : List (Value × Value)) :
    Errs (encodeEntries es) (entriesFaults es) := by
  match es with
  | [] => exact .ok _
  | [(k, v)] =>
      show Errs _ (keyFaults k ++ (faults v ++ []))
      rw [List.append_nil]
      exact (errs_key k).bind fun _ => (errs_encode v).map _
  | (k, v) :: e :: es =>
      exact (errs_key k).bind fun _ => (errs_encode v).bind fun _ =>
        (errs_encodeEntries (e :: es)).map _

end

end Literal

/-! ## The faults of rules -/

open Literal (Errs Fault errs_encode)

/-- The faults of what a condition compares with: only a value is written as a literal. -/
def Condition.operandFaults (c : Condition) : List Fault :=
  match c.source? with
  | some _ => []
  | none => Literal.faults c.value

/-- The faults of a condition, which may compare with nothing. -/
def Condition.faults (c : Condition) : List Fault :=
  match c.operator? with
  | some .exists => []
  | _ => c.operandFaults

/-- The faults of the conditions of all rules. -/
def RuleSet.faults (rules : RuleSet) : List Fault :=
  rules.rules.flatMap fun r => r.conditions.flatMap Condition.faults

namespace Policy

theorem errs_operand (c : Condition) : Errs (operand c) c.operandFaults := by
  unfold operand Condition.operandFaults Condition.source?
  split
  · next path hpath =>
      rw [hpath, Option.filter_some]
      cases path.isEmpty with
      | true => exact errs_encode c.value
      | false => exact .ok _
  · next hpath =>
      rw [hpath]
      exact errs_encode c.value

theorem errs_guard (c : Condition) : Errs (guard c) c.faults := by
  unfold guard Condition.faults
  cases c.operator? with
  | none => exact (errs_operand c).map _
  | some o =>
      cases o with
      | «exists» => exact .ok _
      | regexMatch | equals | greaterThan | lessThan => exact (errs_operand c).map _

theorem errs_clause (d : Dialect) (r : Rule) :
    Errs (clause d r) (r.conditions.flatMap Condition.faults) :=
  (Errs.mapM errs_guard r.conditions).map _

/-- Strict settings refuse rules with unknown operators. -/
def Refuses (s : PolicySettings) (rules : RuleSet) : Prop :=
  s.strictOperators = true ∧ rules.unknownOperators ≠ []

theorem compile_of_refuses {s : PolicySettings} {rules : RuleSet} (h : Refuses s rules) :
    compile s rules = .error (.failure (unsupported rules.unknownOperators)) :=
  if_pos (by simpa [Refuses] using h)

theorem compile_of_not_refuses {s : PolicySettings} {rules : RuleSet} (h : ¬ Refuses s rules) :
    compile s rules = match rules.rules.mapM (clause s.dialect) with
      | .error f => .error (.mishap (.literal f))
      | .ok clauses =>
        .ok ⟨s.package, String.ofList (joinParts (header s :: clauses)), rules.rules.length⟩ :=
  if_neg (by simpa [Refuses] using h)

/-- What comes of compiling rules: strict settings refuse unknown operators with a failure of
their own; else a value without a literal is a mishap, that of the first such part; else there is
a policy. -/
theorem compile_outcome (s : PolicySettings) (rules : RuleSet) :
    (compile s rules = .error (.failure (unsupported rules.unknownOperators)) ↔
      Refuses s rules) ∧
    (∀ f, compile s rules = .error (.mishap (.literal f)) ↔
      ¬ Refuses s rules ∧ rules.faults.head? = some f) ∧
    ((∃ policy, compile s rules = .ok policy) ↔ ¬ Refuses s rules ∧ rules.faults = []) := by
  have herrs : Errs (rules.rules.mapM (clause s.dialect)) rules.faults :=
    Errs.mapM (errs_clause s.dialect) rules.rules
  unfold compile
  by_cases hrefuses : Refuses s rules
  · rw [if_pos (by simpa [Refuses] using hrefuses)]
    simp [hrefuses]
  · rw [if_neg (by simpa [Refuses] using hrefuses)]
    generalize rules.rules.mapM (clause s.dialect) = clauses at herrs ⊢
    generalize rules.faults = fs at herrs ⊢
    cases herrs with
    | ok clauses => simp [hrefuses]
    | error f fs => simp [hrefuses]

/-- A date is accepted as the value of a condition, but there is no literal for it. -/
theorem loaded_date_has_no_policy :
    let conditions := "[\x7bpath: spec.since, operator: equals, value: 2024-01-01\x7d]"
    let text := "rules: [\x7bname: a, match: \x7bkind: Pod\x7d, conditions: " ++ conditions ++
      ", message: m\x7d]\n"
    Settings.ofEntries [] = .ok {} ∧
    ∃ rules, RuleSet.parse "<string>" text = .ok rules ∧
      compile ({} : Settings).policies rules = .error (.mishap (.literal (.value "date"))) :=
  ⟨rfl, by decide +kernel⟩

end Policy

end ManifestPolicy
