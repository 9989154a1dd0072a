import ManifestPolicy.Digest
import ManifestPolicy.Mishap
import ManifestPolicy.Policy.Reference
import ManifestPolicy.Rule.Basic
import ManifestPolicy.Settings.Basic

/-!
# Policies

A rule set is compiled into the source of a policy: a header, and one clause for each rule in
order. A clause has an opening line, a line that guards the kind of document, one line for each
condition, a line with the reason, and a closing line. Strings of rules are written as literals,
so that they keep to their lines; paths and unknown operators are written as they stand.
-/

namespace ManifestPolicy

/-- A compiled policy. -/
structure Policy where
  package : String
  source : String
  ruleCount : Nat
deriving Repr, DecidableEq

/-- The digest of a policy's source. -/
def Policy.digest (p : Policy) : String := Digest.sha256 p.source.toUTF8.toList

namespace Policy

/-- A line of a policy. -/
abbrev Line := List Char

/-- Lines with a line feed between them. -/
def joinLines : List Line → List Char
  | [] => []
  | [l] => l
  | l :: ls => l ++ '\n' :: joinLines ls

/-- The lines before the clauses. -/
def header (s : PolicySettings) : List Line :=
  let package := "package ".toList ++ s.package.toList
  match s.dialect with
  | .v0 => [package]
  | .v1 => [package, [], "import rego.v1".toList]

/-- The line that opens a clause. -/
def clauseOpening : Dialect → Line
  | .v0 => "deny[reason] \x7b".toList
  | .v1 => "deny contains reason if \x7b".toList

/-- The line that closes a clause. -/
def clauseClosing : Line := ['\x7d']

/-- A line inside a clause. -/
def indented (l : Line) : Line := ' ' :: ' ' :: l

/-- The symbol of an operator that stands between two operands. -/
def symbol? : Operator → Option String
  | .equals => some "=="
  | .greaterThan => some ">"
  | .lessThan => some "<"
  | .exists | .regexMatch => none

/-- What a condition compares with: what stands at another path, or a value. -/
def operand (c : Condition) : Except Literal.Fault (List Char) :=
  match c.valueFrom with
  | some path => if path.isEmpty then Literal.encode c.value else .ok (Reference.ofPath path.toList)
  | none => Literal.encode c.value

/-- The guard of a condition, without its indent. -/
def guard (c : Condition) : Except Literal.Fault Line :=
  let field := Reference.ofPath c.path.toList
  match c.operator? with
  | some .exists => .ok (field ++ " != null".toList)
  | some .regexMatch => do
    let pattern ← operand c
    return "regex.match(".toList ++ pattern ++ ", ".toList ++ field ++ [')']
  | known => do
    let right ← operand c
    let operator := (known.bind symbol?).getD c.operator
    return field ++ ' ' :: (operator.toList ++ ' ' :: right)

/-- The line that guards the kind of document. -/
def kindLine (r : Rule) : Line :=
  indented ("input.kind == ".toList ++ Json.quotedString r.kind)

/-- The line with the reason. -/
def reasonLine (r : Rule) : Line :=
  indented ("reason := ".toList ++ Json.quotedString r.message)

/-- The clause of a rule. -/
def clause (d : Dialect) (r : Rule) : Except Literal.Fault (List Line) := do
  let guards ← r.conditions.mapM guard
  return clauseOpening d :: kindLine r :: (guards.map indented ++ [reasonLine r, clauseClosing])

/-- Parts with a blank line between them, and a line feed at the end. -/
def joinParts : List (List Line) → List Char
  | [] => ['\n']
  | [p] => joinLines p ++ ['\n']
  | p :: ps => joinLines p ++ '\n' :: '\n' :: joinParts ps

/-- The failure of a rule set with unknown operators. -/
def unsupported (unknown : List (String × String)) : Failure :=
  let listing := ", ".intercalate (unknown.map fun u => s!"{u.1}: '{u.2}'")
  ⟨.schema, s!"Unsupported operator(s) in rule set ({listing})",
    some ("supported operators: " ++ ", ".intercalate (Operator.all.map Operator.name))⟩

/-- Compiles a rule set. -/
def compile (s : PolicySettings) (rules : RuleSet) : Except Trouble Policy :=
  if s.strictOperators && !rules.unknownOperators.isEmpty then
    .error (.failure (unsupported rules.unknownOperators))
  else
    match rules.rules.mapM (clause s.dialect) with
    | .error f => .error (.mishap (.literal f))
    | .ok clauses =>
      .ok ⟨s.package, String.ofList (joinParts (header s :: clauses)), rules.rules.length⟩

end Policy

end ManifestPolicy
