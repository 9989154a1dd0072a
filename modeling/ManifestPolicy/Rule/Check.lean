import ManifestPolicy.Issue
import ManifestPolicy.Rule.Basic
import ManifestPolicy.Text.Utf8

/-!
# Checking rules

A rule document is a tree; a rule is read from a mapping with the fields of a rule, and other
entries of the mapping are ignored. A string may also be given as its UTF-8 bytes, and a list as
any sequence.
-/

namespace ManifestPolicy

open Checked

/-- A string. -/
def checkString : Value → Checked String
  | .str s => .ok s
  | .bytes bs =>
    match Text.Utf8.decode ⟨bs.toArray⟩ with
    | .ok s => .ok s
    | .error _ => refuse .notUnicode
  | _ => refuse .notString

/-- A string or nothing. -/
def checkOptionalString : Value → Checked (Option String)
  | .null => .ok none
  | v => (checkString v).map some

/-- The items of a sequence. Those of a set have no order of their own, and are taken as they came:
none of them is a mapping, so that where mappings are asked for all are refused alike. -/
def checkSequence : Value → Checked (List Value)
  | .list items => .ok items
  | .tuple items => .ok items
  | .set items => .ok items
  | _ => refuse .notTuple

/-- The entries of a mapping that should be of a named form. -/
def checkMapping (form : String) : Value → Checked (List (Value × Value))
  | .map entries => .ok entries
  | _ => refuse (.notModel form)

/-- A field that has to be there. -/
def required {α : Type} (key : String) (check : Value → Checked α)
    (entries : List (Value × Value)) : Checked α :=
  under key <|
    match Value.entry? key entries with
    | some v => check v
    | none => refuse .missing

/-- A field that has a default. -/
def optional {α : Type} (key : String) (dflt : α) (check : Value → Checked α)
    (entries : List (Value × Value)) : Checked α :=
  under key <|
    match Value.entry? key entries with
    | some v => check v
    | none => .ok dflt

/-- The kind that a rule's documents have. -/
def Rule.checkMatch (v : Value) : Checked String := do
  let entries ← checkMapping "MatchSpec" v
  required "kind" checkString entries

/-- The fields of a condition. -/
def Condition.checkFields (entries : List (Value × Value)) : Checked Condition :=
  app (app (app (app (.ok Condition.mk)
    (required "path" checkString entries))
    (required "operator" checkString entries))
    (optional "value" .null .ok entries))
    (optional "value_from" none checkOptionalString entries)

/-- A condition. -/
def Condition.check (v : Value) : Checked Condition := do
  let entries ← checkMapping "Condition" v
  Condition.checkFields entries

/-- The conditions of a rule. -/
def Condition.checkAll (v : Value) : Checked (List Condition) := do
  let vs ← checkSequence v
  items Condition.check 0 vs

/-- The fields of a rule. -/
def Rule.checkFields (entries : List (Value × Value)) : Checked Rule :=
  app (app (app (app (.ok Rule.mk)
    (required "name" checkString entries))
    (required "match" Rule.checkMatch entries))
    (optional "conditions" [] Condition.checkAll entries))
    (required "message" checkString entries)

/-- A rule. -/
def Rule.check (v : Value) : Checked Rule := do
  let entries ← checkMapping "Rule" v
  Rule.checkFields entries

/-- The rules of a rule set. -/
def Rule.checkAll (v : Value) : Checked (List Rule) := do
  let vs ← checkSequence v
  items Rule.check 0 vs

/-- The fields of a rule set. -/
def RuleSet.checkFields (entries : List (Value × Value)) : Checked RuleSet :=
  (required "rules" Rule.checkAll entries).map RuleSet.mk

end ManifestPolicy
