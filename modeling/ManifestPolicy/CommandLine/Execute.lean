import ManifestPolicy.CommandLine.Command
import ManifestPolicy.Console.Echo
import ManifestPolicy.Schema.File
import ManifestPolicy.Schema.Meta
import ManifestPolicy.Settings.File
import ManifestPolicy.Validation.Report
import ManifestPolicy.Validation.Run

/-!
# Executing commands

A command acts on a session and ends with what it printed and an exit status: 0 if all is well, 1
if something was found, 2 if something failed or was asked for wrongly. What nobody is prepared for
ends a command with the status 1 and the trouble itself.
-/

namespace ManifestPolicy

/-- How a command ended. -/
structure Ended where
  stdout : List Char
  exitCode : Nat
  trouble : Option Trouble := none

namespace Ended

/-- The status of a command that nobody was prepared for. -/
def unprepared : Nat := 1

/-- Prints pieces and ends with a status. -/
def printing (pieces : List Piece) (exitCode : Nat) : Ended :=
  match Piece.print pieces with
  | (cs, none) => ⟨cs, exitCode, none⟩
  | (cs, some t) => ⟨cs, unprepared, some t⟩

/-- Ends with a trouble that nobody is prepared for. -/
def breaking (t : Trouble) : Ended := ⟨[], unprepared, some t⟩

/-- The mark before an error. -/
def errorMark : String := "[red]Error:[/red] "

/-- Prints an error, in which tags count. -/
def refusing (width : Nat) (text : String) : Ended :=
  printing [Piece.marked width (errorMark ++ text)] 2

/-- Ends with trouble: failures are printed, and for others nobody is prepared. -/
def failing (width : Nat) : Trouble → Ended
  | .failure f => refusing width (Markup.escape f.text)
  | .mishap m => breaking (.mishap m)

/-- Ends because there are no settings. -/
def unsettled (width : Nat) : Settings.LoadFault → Ended
  | .unreachable e =>
    if e.isOfSystem then breaking (.mishap (.file e)) else refusing width (Markup.escape e.text)
  | f => refusing width (Markup.escape f.text)

/-- Ends with a file that cannot be dealt with. -/
def unreachable (e : FileError) : Ended := breaking (.mishap (.file e))

/-- Echoes a text. The screen refuses one that cannot be encoded, as a file does. -/
def echoing (text : String) : Ended :=
  let cs := Echo.shown text.toList
  match Text.Utf8.firstHalves? cs with
  | some fault => unreachable (.unencodable fault)
  | none => ⟨cs, 0, none⟩

end Ended

namespace Command

/-- The name and the version of the program. -/
def versionLine : String := "kubepolicy version 0.1.0"

/-- What a command needs of its place: the resolved workspace and the settings. -/
def settle (width : Nat) (place : Place) (files : FileSystem) : Except Ended (Path × Settings) :=
  match files.resolve place.workspace with
  | .error e => .error (.unreachable e)
  | .ok location =>
    let workspace := Path.ofLocation location
    match Settings.load files place.settings workspace with
    | .error f => .error (.unsettled width f)
    | .ok settings => .ok (workspace, settings)

/-- The name of a level that is no level, if one was asked for. An empty name asks for none. -/
def badLevel? (logLevel : Option String) : Option String :=
  match logLevel with
  | some name => if name.isEmpty || (LogLevel.ofName? name).isSome then none else some name
  | none => none

/-- Runs a request and shows the result. -/
def runRequest (reporter : Reporter) (settings : Settings) (q : Request) (s : Session) :
    Session × Ended :=
  match Validator.run ⟨settings, reporter.trouble⟩ q s with
  | (s, .ok r) => (s, ⟨reporter.shown s.notices, r.outcome.exitCode, none⟩)
  | (s, .error t) => (s, ⟨reporter.shown s.notices, Ended.unprepared, some t⟩)

/-- Validates a document. -/
def runValidate (width : Nat) (document : Path) (place : Place) (form : String) (render : Bool)
    (trigger : Trigger) (logLevel : Option String) (s : Session) : Session × Ended :=
  match ReportForm.ofName? form with
  | none => (s, .refusing width (ReportForm.unknown form))
  | some form =>
    match settle width place s.files with
    | .error e => (s, e)
    | .ok (workspace, settings) =>
      match badLevel? logLevel with
      | some name => (s, .refusing width (LogLevel.unknown name))
      | none =>
        if trigger = .save && !document.isStructured then
          let skipped := s!"[dim]Skipping non-YAML document: {document.text}[/dim]"
          (s, .printing [Piece.marked width skipped] 0)
        else
          match Request.resolved s.files document (some workspace) trigger none with
          | .error e => (s, .unreachable e)
          | .ok q =>
            let enabled := settings.renderer.enabled && render
            let settings := { settings with renderer := { settings.renderer with enabled } }
            runRequest ⟨form, width, false⟩ settings q s

/-- What is said of a policy that was written. -/
def written (width : Nat) (path : Path) : Ended :=
  .printing [Piece.marked width s!"[green]Generated policy:[/green] {path.text}"] 0

/-- The policy of a workspace. -/
def policyOf (settings : Settings) (workspace : Path) (files : FileSystem) :
    Except Trouble Policy := do
  let rules ← RuleSet.load files (settings.policies.rulesPath workspace)
  Policy.compile settings.policies rules

/-- Writes a policy to a file that was asked for. -/
def writeTo (width : Nat) (out : Path) (policy : Policy) (s : Session) : Session × Ended :=
  match s.files.resolve out with
  | .error e => (s, .unreachable e)
  | .ok location =>
    let path := Path.ofLocation location
    match Policy.save policy.source path s.files with
    | (files, some t) => ({ s with files := files }, .failing width t)
    | (files, none) => ({ s with files := files }, written width path)

/-- Compiles the rules of a workspace. The policy is echoed, or written to a file that was asked
for, or else to its place in the workspace. -/
def runCompile (width : Nat) (place : Place) (out : Option Path) (toScreen : Bool) (s : Session) :
    Session × Ended :=
  match settle width place s.files with
  | .error e => (s, e)
  | .ok (workspace, settings) =>
    if toScreen || out.isSome then
      match policyOf settings workspace s.files with
      | .error t => (s, .failing width t)
      | .ok policy =>
        match toScreen, out with
        | false, some out => writeTo width out policy s
        | _, _ => (s, .echoing policy.source)
    else
      let reporter : Reporter := ⟨.table, width, true⟩
      match Validator.generate ⟨settings, reporter.trouble⟩ workspace s with
      | (s, .error t) => (s, .failing width t)
      | (s, .ok path) => (s, written width path)

/-- Says whether a document is a template. -/
def runDetect (width : Nat) (document : Path) (s : Session) : Session × Ended :=
  match Template.isTemplateFile s.files document with
  | .error t => (s, .failing width t)
  | .ok true => (s, .printing [Piece.marked width s!"[yellow]Template:[/yellow] {document.text}"] 0)
  | .ok false =>
    (s, .printing [Piece.marked width s!"[green]Plain manifest:[/green] {document.text}"] 1)

/-- The structure of a plain document, if it is looked at. -/
def checkPlain (check : Bool) (plain : Path) (files : FileSystem) : Except Trouble Unit :=
  if check then
    match files.readText plain with
    | .error e => .error (.mishap (.file e))
    | .ok text => (Template.firstDocument text).map fun _ => ()
  else .ok ()

/-- Makes a template plain. -/
def runSanitize (width : Nat) (document : Path) (settings : Option Path) (check : Bool)
    (s : Session) : Session × Ended :=
  match s.files.resolve document with
  | .error e => (s, .unreachable e)
  | .ok location =>
    match Settings.load s.files settings (Path.ofLocation location).parent with
    | .error f => (s, .unsettled width f)
    | .ok settings =>
      match Template.sanitizeFile settings.sanitizer s.files document with
      | (files, .error t) => ({ s with files := files }, .failing width t)
      | (files, .ok plain) =>
        let s := { s with files := files }
        match checkPlain check plain files with
        | .error t => (s, .failing width t)
        | .ok () =>
          let done := s!"[green]Sanitized document:[/green] {plain.text}"
          (s, .printing [Piece.marked width done] 0)

/-- Writes the published schemas. -/
def runSchema (width : Nat) (out : Path) (s : Session) : Session × Ended :=
  match s.files.resolve out with
  | .error e => (s, .unreachable e)
  | .ok location =>
    match Schema.save (Path.ofLocation location) s.files with
    | (files, .error e) => ({ s with files := files }, .unreachable e)
    | (files, .ok saved) =>
      let line (text : String) := Piece.marked width text
      let pieces := line s!"[green]Generated {saved.length} JSON schemas:[/green]"
        :: saved.map fun p => line s!"  • {p.1}: {p.2.text}"
      let complaints := Schema.complaints Schema.published
      let s := { s with files := files }
      if complaints.isEmpty then (s, .printing pieces 0)
      else
        let warnings := line "[yellow]Schema validation warnings:[/yellow]"
          :: complaints.map fun c => line s!"  • {c}"
        (s, .printing (pieces ++ warnings) 1)

/-- Executes a command on a screen of some width. -/
def execute (width : Nat) (c : Command) (s : Session) : Session × Ended :=
  if c.paths.any Path.hasNull then (s, .unreachable .nullInPath)
  else
    match c with
    | .version => (s, .printing [Piece.marked width versionLine] 0)
    | .help => (s, ⟨[], 0, none⟩)
    | .validate document place form render trigger logLevel =>
      runValidate width document place form render trigger logLevel s
    | .compile place out toScreen => runCompile width place out toScreen s
    | .detect document => runDetect width document s
    | .sanitize document settings check => runSanitize width document settings check s
    | .schema out => runSchema width out s

/-- Executes the command that arguments make. Arguments that make none end with the status 2, and
nothing is printed. -/
def executeArgs (width : Nat) (args : List String) (s : Session) : Session × Ended :=
  match read args with
  | some c => execute width c s
  | none => (s, ⟨[], 2, none⟩)

end Command

end ManifestPolicy
