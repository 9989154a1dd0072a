/-!
# Issues of a document

Checking a document against what it should hold reports every issue, each with its place, in the
order of the fields. A check gives a value, or a list of issues that is not empty; two checks of
parts of one document are joined so that the issues of both are kept.
-/

namespace ManifestPolicy

/-- What is wrong with a part of a document. -/
inductive IssueKind where
  | missing
  | notString
  | notUnicode
  | notTuple
  | notModel (name : String)
  | notMapping
  | extra
  | refused (reason : String)
  | notChoice (choices : List String)
  | notBool
  | unreadableBool
  | notNumber
  | unreadableNumber
deriving Repr, DecidableEq

/-- Choices as a sentence lists them. -/
def listChoices : List String → String
  | [] => ""
  | [c] => s!"'{c}'"
  | [c, d] => s!"'{c}' or '{d}'"
  | c :: cs => s!"'{c}', " ++ listChoices cs

namespace IssueKind

/-- The wording of an issue. -/
def text : IssueKind → String
  | .missing => "Field required"
  | .notString => "Input should be a valid string"
  | .notUnicode => "Input should be a valid string, unable to parse raw data as a unicode string"
  | .notTuple => "Input should be a valid tuple"
  | .notModel name => s!"Input should be a valid dictionary or instance of {name}"
  | .notMapping => "Input should be a valid dictionary"
  | .extra => "Extra inputs are not permitted"
  | .refused reason => s!"Value error, {reason}"
  | .notChoice choices => s!"Input should be {listChoices choices}"
  | .notBool => "Input should be a valid boolean"
  | .unreadableBool => "Input should be a valid boolean, unable to interpret input"
  | .notNumber => "Input should be a valid number"
  | .unreadableNumber => "Input should be a valid number, unable to parse string as a number"

/-- The short name of an issue. -/
def code : IssueKind → String
  | .missing => "missing"
  | .notString => "string_type"
  | .notUnicode => "string_unicode"
  | .notTuple => "tuple_type"
  | .notModel _ => "model_type"
  | .notMapping => "dict_type"
  | .extra => "extra_forbidden"
  | .refused _ => "value_error"
  | .notChoice _ => "enum"
  | .notBool => "bool_type"
  | .unreadableBool => "bool_parsing"
  | .notNumber => "float_type"
  | .unreadableNumber => "float_parsing"

end IssueKind

/-- An issue and its place, from the outermost part on. -/
structure Issue where
  place : List String
  kind : IssueKind
deriving Repr, DecidableEq

/-- An issue as messages show it. -/
def Issue.text (i : Issue) : String :=
  "\n" ++ ".".intercalate i.place ++ s!"\n  {i.kind.text} [type={i.kind.code}]"

/-- The issues of a document that should be of a named form. -/
structure Issues where
  form : String
  issues : List Issue
deriving Repr, DecidableEq

/-- The number of the issues, and each of them. -/
def Issues.text (e : Issues) : String :=
  let n := e.issues.length
  s!"{n} validation " ++ (if n = 1 then "error" else "errors") ++ s!" for {e.form}"
    ++ String.join (e.issues.map Issue.text)

/-- The result of a check. -/
abbrev Checked (α : Type) := Except (List Issue) α

namespace Checked

/-- The check failed here. -/
def refuse {α : Type} (kind : IssueKind) : Checked α := .error [⟨[], kind⟩]

/-- The check of a part, at its place in the whole. -/
def under {α : Type} (key : String) : Checked α → Checked α
  | .ok a => .ok a
  | .error is => .error (is.map fun i => { i with place := key :: i.place })

/-- Two checks, of which the issues of both are kept. -/
def both {α β γ : Type} (f : α → β → γ) : Checked α → Checked β → Checked γ
  | .ok a, .ok b => .ok (f a b)
  | .ok _, .error js => .error js
  | .error is, .ok _ => .error is
  | .error is, .error js => .error (is ++ js)

/-- Applies checked values one by one. -/
def app {α β : Type} (f : Checked (α → β)) (a : Checked α) : Checked β := both (fun g x => g x) f a

/-- The checks of the items of a list, each at its number, counted from a number on. -/
def items {α β : Type} (check : α → Checked β) : Nat → List α → Checked (List β)
  | _, [] => .ok []
  | n, a :: as => both List.cons (under (toString n) (check a)) (items check (n + 1) as)

/-- The check of a document of a named form. -/
def named {α : Type} (form : String) : Checked α → Except Issues α
  | .ok a => .ok a
  | .error is => .error ⟨form, is⟩

end Checked

end ManifestPolicy
