import ManifestPolicy.Console.Print
import ManifestPolicy.Settings.Basic
import ManifestPolicy.Validation.Session

/-!
# Reports

What a validation gives notice of is shown as a table, as JSON, or as a list in Markdown. Only the
table is accompanied by notices on the way. Notices may also go to a log.
-/

namespace ManifestPolicy

/-- The forms of a report. -/
inductive ReportForm where
  | table
  | json
  | markdown
deriving Repr, DecidableEq

namespace ReportForm

/-- The name of a form. -/
def name : ReportForm → String
  | .table => "table"
  | .json => "json"
  | .markdown => "markdown"

/-- The forms in order. -/
def all : List ReportForm := [.table, .json, .markdown]

/-- The form with the name. -/
def ofName? (name : String) : Option ReportForm := all.find? fun f => f.name = name

/-- What to say of a name that no form has. -/
def unknown (name : String) : String :=
  s!"Invalid format '{name}'. Must be one of: " ++ ", ".intercalate (all.map ReportForm.name)

end ReportForm

/-- How reports are shown on a screen. -/
structure Reporter where
  form : ReportForm := .table
  width : Nat := 80
  /-- Whether information on the way is left out. -/
  quiet : Bool := false
deriving Repr, DecidableEq

namespace Reporter

/-- How a missing document is shown. -/
def shownDocument (r : Result) : String := (r.document.map Path.text).getD "None"

/-- The reasons of a result. -/
def reasonsOf (r : Result) : Except Trouble (List String) :=
  match r.outcome.reasons with
  | .ok reasons => .ok reasons
  | .error f => .error (.mishap (.output f))

/-- The reasons of a result, each as a marked-up line. -/
def listed (p : Reporter) (r : Result) : List Piece :=
  match reasonsOf r with
  | .error t => [.error t]
  | .ok reasons => reasons.map fun s => Piece.marked p.width ("- " ++ Markup.escape s)

/-- A result in Markdown. -/
def markdown (p : Reporter) (r : Result) : List Piece :=
  let line (s : String) := Piece.marked p.width s
  [line "# Validation Report",
    line s!"**Document:** {shownDocument r}",
    line s!"**Outcome:** {r.outcome.name}",
    line s!"**Exit Code:** {r.outcome.exitCode}",
    Piece.blank]
  ++ (match r.outcome with
    | .failure kind message =>
      [line "## Failure",
        line (s!"- **{kind.text}** ({r.stage.name}): " ++ Markup.escape message)]
    | .violations _ => line "## Violations" :: p.listed r
    | .noViolations => [line r.outcome.message])
  ++ (if r.warnings.isEmpty then []
    else [Piece.blank, line "## Warnings"]
      ++ r.warnings.map fun w => line ("- " ++ Markup.escape w))

/-- A result as a table, or as a line if there are no violations. -/
def table (p : Reporter) (r : Result) : Piece :=
  match r.outcome with
  | .noViolations => Piece.marked p.width s!"[green]{r.outcome.message}[/green]"
  | .failure kind message =>
    Piece.marked p.width (s!"[red]Error:[/red] " ++ Markup.escape message
      ++ s!" [dim]({kind.text} during {r.stage.name})[/dim]")
  | .violations _ => do
    let reasons ← reasonsOf r
    let numbers := (List.range reasons.length).map fun i => toString (i + 1)
    Piece.table p.width s!"Policy violations: {shownDocument r}"
      [Piece.column "#" .right numbers,
        Piece.column "Reason" .left (reasons.map Markup.escape)]

/-- A result as JSON. -/
def json (r : Result) : Piece :=
  match r.toJson with
  | .ok v => Piece.written v.ascii >>= Piece.json
  | .error f => .error (.mishap (.output f))

/-- What a notice shows on the screen. -/
def pieces (p : Reporter) : Notice → List Piece
  | .info text =>
    if p.form = .table && !p.quiet then
      [Piece.marked p.width ("[dim]" ++ Markup.escape text ++ "[/dim]")]
    else []
  | .warning text =>
    if p.form = .table then
      [Piece.marked p.width ("[yellow]Warning:[/yellow] " ++ Markup.escape text)]
    else []
  | .report r =>
    match p.form with
    | .table => [p.table r]
    | .json => [json r]
    | .markdown => p.markdown r

/-- Why a notice cannot be shown, if it cannot. -/
def trouble (p : Reporter) (n : Notice) : Option Trouble := (Piece.print (p.pieces n)).2

/-- What is printed for some notices; one that cannot be shown does not keep the next from it. -/
def shown (p : Reporter) (ns : List Notice) : List Char :=
  ns.flatMap fun n => (Piece.print (p.pieces n)).1

/-- What is printed for some notices, and what ended the printing if anything did. -/
def print (p : Reporter) (ns : List Notice) : List Char × Option Trouble :=
  Piece.print (ns.flatMap p.pieces)

end Reporter

/-- A record of a log. -/
structure LogRecord where
  level : LogLevel
  text : String
deriving Repr, DecidableEq

namespace LogRecord

/-- The record of what is said on the way. -/
def ofRemark? : Notice → Option LogRecord
  | .info text => some ⟨.info, text⟩
  | .warning text => some ⟨.warn, text⟩
  | .report _ => none

/-- The record of a result. -/
def ofResult (r : Result) : LogRecord :=
  match r.outcome with
  | .failure kind message => ⟨.error, s!"Validation failed ({kind.text}): {message}"⟩
  | .violations output => ⟨.warn, s!"Policy violations found:\n{output}"⟩
  | .noViolations => ⟨.info, r.outcome.message⟩

/-- The record of a notice. -/
def ofNotice (n : Notice) : LogRecord :=
  match n with
  | .report r => ofResult r
  | .info text => ⟨.info, text⟩
  | .warning text => ⟨.warn, text⟩

/-- The label of a record's level. -/
def label (l : LogRecord) : String :=
  match l.level with
  | .error => "ERROR"
  | .warn => "WARNING"
  | .info => "INFO"
  | .debug => "DEBUG"

end LogRecord

end ManifestPolicy
