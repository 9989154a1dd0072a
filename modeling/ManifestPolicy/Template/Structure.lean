import ManifestPolicy.Mishap
import ManifestPolicy.Yaml.Construction

/-!
# The structure of a plain document

A template that has been made plain has to be a YAML text whose documents, the empty ones apart,
are mappings or sequences; there has to be at least one.
-/

namespace ManifestPolicy.Template

/-- The failure of a plain text that is not YAML. -/
def notYaml (detail : String) : Failure :=
  ⟨.schema, "Error parsing sanitized YAML", some detail⟩

/-- The failure of a plain text whose documents are not all collections. -/
def notStructured : Failure := ⟨.schema, "Invalid YAML structure after sanitization", none⟩

/-- Whether a tree is a mapping or a sequence. -/
def isCollection : Value → Bool
  | .map _ => true
  | .list _ => true
  | _ => false

/-- Whether a tree is nothing. -/
def isNull : Value → Bool
  | .null => true
  | _ => false

/-- The first document of a structured text. -/
def firstDocument (text : String) : Except Trouble Value :=
  match Yaml.documents text with
  | .error (.scalar f) => .error (.mishap (.scalar f))
  | .error f => .error (.failure (notYaml (f.message text.toList)))
  | .ok docs =>
    match (docs.map Yaml.Document.value).filter fun v => !isNull v with
    | [] => .error (.failure notStructured)
    | v :: vs =>
      if (v :: vs).all isCollection then .ok v else .error (.failure notStructured)

end ManifestPolicy.Template
