import ManifestPolicy.Mishap
import ManifestPolicy.Rule.Check
import ManifestPolicy.Yaml.Construction

/-!
# Rule documents

A rule document is a YAML text whose root is a mapping with a list of rules. Whether its operators
are known does not matter here.
-/

namespace ManifestPolicy

/-- The failure of a text that is not YAML. -/
def Failure.notYaml (source detail : String) : Failure :=
  ⟨.parse, s!"Failed to parse '{source}'. Ensure it is valid YAML", some detail⟩

/-- The failure of a document without a list of rules. -/
def Failure.noRules (source : String) : Failure :=
  ⟨.schema, s!"Invalid structure in '{source}'. Expected a 'rules' array", none⟩

/-- The failure of a document with rules that are not well formed. -/
def Failure.invalidRules (source detail : String) : Failure :=
  ⟨.schema, s!"Invalid rule definition in '{source}'", some detail⟩

/-- The entries of a tree that is a mapping with a list of rules. -/
def rulesEntries? : Value → Option (List (Value × Value))
  | .map entries =>
    match Value.entry? "rules" entries with
    | some (.list _) => some entries
    | _ => none
  | _ => none

/-- Whether a key is a string. -/
def Value.isString : Value → Bool
  | .str _ => true
  | _ => false

/-- The rule set of a document's tree. -/
def RuleSet.ofTree (source : String) (tree : Value) : Except Trouble RuleSet :=
  match rulesEntries? tree with
  | none => .error (.failure (.noRules source))
  | some entries =>
    if !entries.all fun e => e.1.isString then .error (.mishap .argumentNames)
    else
      match Checked.named "RuleSet" (RuleSet.checkFields entries) with
      | .ok s => .ok s
      | .error issues => .error (.failure (.invalidRules source issues.text))

/-- The value of a condition as the tree below its own part of the document. -/
def Yaml.Document.conditionValue (d : Yaml.Document) (rule condition : Nat) : Option Value := do
  let rules ← d.under "rules" d.root
  let conditions ← d.under "conditions" (← d.item rule rules)
  let value ← d.under "value" (← d.item condition conditions)
  return d.tree value

/-- The rule set with the value of each condition seen from itself: a container that encloses the
value may occur in it, and is then cut only where it occurs again below the value. -/
def RuleSet.rooted (d : Yaml.Document) (s : RuleSet) : RuleSet :=
  ⟨s.rules.mapIdx fun i r =>
    { r with conditions := r.conditions.mapIdx fun j c =>
        { c with value := (d.conditionValue i j).getD c.value } }⟩

/-- How many levels of containers there are from the root of a rule document to the fields of a
condition. -/
def ruleLevels : Nat := 6

/-- The rule set of a document. In a document with a container inside itself, a rule may be a
container that encloses it. -/
def RuleSet.ofDocument (source : String) (d : Yaml.Document) : Except Trouble RuleSet :=
  let tree := d.value
  if tree.isCyclic then (RuleSet.ofTree source (d.opened ruleLevels d.root)).map (RuleSet.rooted d)
  else RuleSet.ofTree source tree

/-- Reads a rule document; `source` names it in messages. -/
def RuleSet.parse (source text : String) : Except Trouble RuleSet :=
  match Yaml.document text with
  | .error (.scalar f) => .error (.mishap (.scalar f))
  | .error f => .error (.failure (.notYaml source (f.message text.toList)))
  | .ok d => RuleSet.ofDocument source d

end ManifestPolicy
