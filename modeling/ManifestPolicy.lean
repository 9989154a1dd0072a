import ManifestPolicy.Calendar
import ManifestPolicy.CommandLine.Arguments
import ManifestPolicy.CommandLine.Command
import ManifestPolicy.CommandLine.Execute
import ManifestPolicy.Console.Echo
import ManifestPolicy.Console.Layout
import ManifestPolicy.Console.Markup
import ManifestPolicy.Console.Print
import ManifestPolicy.Console.Table
import ManifestPolicy.Digest
import ManifestPolicy.Failure
import ManifestPolicy.FileSystem
import ManifestPolicy.Issue
import ManifestPolicy.Json.Basic
import ManifestPolicy.Json.Reader
import ManifestPolicy.Json.Writer
import ManifestPolicy.Main
import ManifestPolicy.Mishap
import ManifestPolicy.Number.Binary64
import ManifestPolicy.Number.Decimal
import ManifestPolicy.Number.Integer
import ManifestPolicy.Number.Shortest
import ManifestPolicy.Path
import ManifestPolicy.Policy.Compile
import ManifestPolicy.Policy.File
import ManifestPolicy.Policy.Reference
import ManifestPolicy.Proofs.AskedFirst
import ManifestPolicy.Proofs.CallOrder
import ManifestPolicy.Proofs.CompileModes
import ManifestPolicy.Proofs.ConstructionFaults
import ManifestPolicy.Proofs.DecimalText
import ManifestPolicy.Proofs.DetectStatus
import ManifestPolicy.Proofs.DetectedTemplates
import ManifestPolicy.Proofs.EchoedText
import ManifestPolicy.Proofs.EscapedText
import ManifestPolicy.Proofs.EvaluationWindow
import ManifestPolicy.Proofs.EvaluatorCall
import ManifestPolicy.Proofs.EvaluatorReport
import ManifestPolicy.Proofs.FailureStages
import ManifestPolicy.Proofs.FileFrame
import ManifestPolicy.Proofs.GatherSerial
import ManifestPolicy.Proofs.GatherTurns
import ManifestPolicy.Proofs.InputsKept
import ManifestPolicy.Proofs.IntegerLimit
import ManifestPolicy.Proofs.JsonAtoms
import ManifestPolicy.Proofs.JsonGrammar
import ManifestPolicy.Proofs.JsonReading
import ManifestPolicy.Proofs.JsonStrings
import ManifestPolicy.Proofs.JsonWriting
import ManifestPolicy.Proofs.LiteralFaults
import ManifestPolicy.Proofs.LiteralGrammar
import ManifestPolicy.Proofs.LiteralLine
import ManifestPolicy.Proofs.LiteralReading
import ManifestPolicy.Proofs.LoadedSettings
import ManifestPolicy.Proofs.LockDiscipline
import ManifestPolicy.Proofs.LockPerRoot
import ManifestPolicy.Proofs.MarkupTags
import ManifestPolicy.Proofs.NearestSettings
import ManifestPolicy.Proofs.NoExpressionLeft
import ManifestPolicy.Proofs.NotANumber
import ManifestPolicy.Proofs.Outcome
import ManifestPolicy.Proofs.OutputFaults
import ManifestPolicy.Proofs.PathReferences
import ManifestPolicy.Proofs.PathText
import ManifestPolicy.Proofs.PlainAgain
import ManifestPolicy.Proofs.PolicyJoined
import ManifestPolicy.Proofs.PolicyKept
import ManifestPolicy.Proofs.PolicyLines
import ManifestPolicy.Proofs.PolicyMold
import ManifestPolicy.Proofs.PolicySource
import ManifestPolicy.Proofs.PublishedGrammar
import ManifestPolicy.Proofs.RendererMissing
import ManifestPolicy.Proofs.RendererWords
import ManifestPolicy.Proofs.Replacement
import ManifestPolicy.Proofs.ReportRead
import ManifestPolicy.Proofs.ReportShown
import ManifestPolicy.Proofs.RuleDocumentTrouble
import ManifestPolicy.Proofs.RuleGrammar
import ManifestPolicy.Proofs.RunAgain
import ManifestPolicy.Proofs.RunCourse
import ManifestPolicy.Proofs.RunFrame
import ManifestPolicy.Proofs.RunReported
import ManifestPolicy.Proofs.RunWrites
import ManifestPolicy.Proofs.ScanningFaults
import ManifestPolicy.Proofs.ScheduleSound
import ManifestPolicy.Proofs.SettingsAccepted
import ManifestPolicy.Proofs.StructureTrouble
import ManifestPolicy.Proofs.TemplatePieces
import ManifestPolicy.Proofs.UnknownOperators
import ManifestPolicy.Proofs.ViolationReasons
import ManifestPolicy.Proofs.WrittenAgain
import ManifestPolicy.Rule.Basic
import ManifestPolicy.Rule.Check
import ManifestPolicy.Rule.Document
import ManifestPolicy.Rule.File
import ManifestPolicy.Schema.File
import ManifestPolicy.Schema.Meta
import ManifestPolicy.Schema.Pattern
import ManifestPolicy.Schema.Published
import ManifestPolicy.Schema.Validity
import ManifestPolicy.Settings.Basic
import ManifestPolicy.Settings.Check
import ManifestPolicy.Settings.Document
import ManifestPolicy.Settings.File
import ManifestPolicy.Template.Detect
import ManifestPolicy.Template.File
import ManifestPolicy.Template.Sanitize
import ManifestPolicy.Template.Structure
import ManifestPolicy.Text.Blank
import ManifestPolicy.Text.Cells
import ManifestPolicy.Text.Digit
import ManifestPolicy.Text.Identifier
import ManifestPolicy.Text.Lowercase
import ManifestPolicy.Text.Printable
import ManifestPolicy.Text.Quoted
import ManifestPolicy.Text.Ranges
import ManifestPolicy.Text.Utf8
import ManifestPolicy.Tool.Call
import ManifestPolicy.Tool.Evaluator
import ManifestPolicy.Tool.Output
import ManifestPolicy.Tool.Program
import ManifestPolicy.Tool.Renderer
import ManifestPolicy.Validation.Report
import ManifestPolicy.Validation.Request
import ManifestPolicy.Validation.Result
import ManifestPolicy.Validation.Run
import ManifestPolicy.Validation.Schedule
import ManifestPolicy.Validation.Session
import ManifestPolicy.Value.Basic
import ManifestPolicy.Value.Literal
import ManifestPolicy.Yaml.Construction
import ManifestPolicy.Yaml.Cursor
import ManifestPolicy.Yaml.Event
import ManifestPolicy.Yaml.Fault
import ManifestPolicy.Yaml.Implicit
import ManifestPolicy.Yaml.Mark
import ManifestPolicy.Yaml.Node
import ManifestPolicy.Yaml.Scalar
import ManifestPolicy.Yaml.Timestamp
import ManifestPolicy.Yaml.Token
import ManifestPolicy.Yaml.Token.Lexer
import ManifestPolicy.Yaml.Token.Name
import ManifestPolicy.Yaml.Token.Scalar
