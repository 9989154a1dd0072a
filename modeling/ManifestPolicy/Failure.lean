/-!
# Failures

A validation ends early for one of a few kinds of reason. A failure has a class, which fixes its
kind, a message, and perhaps details that are shown behind the message.
-/

namespace ManifestPolicy

/-- The kinds of reason for which a validation ends early. -/
inductive FailureKind where
  | parse
  | schema
  | io
  | render
  | evaluation
  | unknown
deriving Repr, DecidableEq

/-- The word for a kind. -/
def FailureKind.text : FailureKind → String
  | .parse => "parse_error"
  | .schema => "schema_error"
  | .io => "io_error"
  | .render => "render_error"
  | .evaluation => "evaluation_error"
  | .unknown => "unknown_error"

/-- The classes of failure. A rule document that is not there is a case of its own among the
failures to read or write a file. -/
inductive FailureClass where
  | general
  | parse
  | schema
  | io
  | rulesMissing
  | render
  | evaluation
deriving Repr, DecidableEq

/-- The kind of a class. -/
def FailureClass.kind : FailureClass → FailureKind
  | .general => .unknown
  | .parse => .parse
  | .schema => .schema
  | .io => .io
  | .rulesMissing => .io
  | .render => .render
  | .evaluation => .evaluation

/-- A failure of a validation. -/
structure Failure where
  cls : FailureClass
  message : String
  details : Option String
deriving Repr, DecidableEq

namespace Failure

/-- The kind of a failure. -/
def kind (f : Failure) : FailureKind := f.cls.kind

/-- The message, followed by the details unless there are none or they are empty. -/
def text (f : Failure) : String :=
  match f.details with
  | none => f.message
  | some d => if d.isEmpty then f.message else s!"{f.message}: {d}"

end Failure

end ManifestPolicy
