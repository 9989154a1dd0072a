import ManifestPolicy.Value.Basic

/-!
# Rules

A rule says which documents it applies to, by their kind, and on which conditions such a document
is denied, and for what reason. A condition compares what stands at a path of the document with a
value, or with what stands at another path.
-/

namespace ManifestPolicy

/-- The operators that conditions know. -/
inductive Operator where
  | equals
  | exists
  | greaterThan
  | lessThan
  | regexMatch
deriving Repr, DecidableEq

namespace Operator

/-- The operators in their usual order. -/
def all : List Operator := [.equals, .exists, .greaterThan, .lessThan, .regexMatch]

/-- The name of an operator in a rule document. -/
def name : Operator → String
  | .equals => "equals"
  | .exists => "exists"
  | .greaterThan => "greater_than"
  | .lessThan => "less_than"
  | .regexMatch => "regex_match"

/-- The operator with the name. -/
def ofName? (name : String) : Option Operator := all.find? fun o => o.name = name

end Operator

/-- A condition of a rule. The operator is kept as it was written, for it may be unknown. -/
structure Condition where
  path : String
  operator : String
  value : Value
  /-- Another path that the value is taken from; an empty one counts as none. -/
  valueFrom : Option String
deriving Repr, BEq

/-- The operator of a condition, if it is known. -/
def Condition.operator? (c : Condition) : Option Operator := Operator.ofName? c.operator

/-- A rule. -/
structure Rule where
  name : String
  kind : String
  conditions : List Condition
  message : String
deriving Repr, BEq

/-- Rules in the order of their document. -/
structure RuleSet where
  rules : List Rule
deriving Repr, BEq

/-- The rule names and operators of the conditions whose operator is unknown, in order. -/
def RuleSet.unknownOperators (s : RuleSet) : List (String × String) :=
  s.rules.flatMap fun r =>
    (r.conditions.filter fun c => c.operator?.isNone).map fun c => (r.name, c.operator)

end ManifestPolicy
