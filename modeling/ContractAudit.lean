import ContractAudit.Command.Arguments
import ContractAudit.Command.Console
import ContractAudit.Command.Execution
import ContractAudit.Command.Invocation
import ContractAudit.Command.Progress
import ContractAudit.Config.Environment
import ContractAudit.Config.Field
import ContractAudit.Config.Load
import ContractAudit.Config.Moment
import ContractAudit.Config.Settings
import ContractAudit.Config.Value
import ContractAudit.Coverage.Ratio
import ContractAudit.Coverage.Tally
import ContractAudit.Failure
import ContractAudit.Fault
import ContractAudit.Files.Match
import ContractAudit.Files.Pathname
import ContractAudit.Files.Selection
import ContractAudit.Files.Source
import ContractAudit.Files.World
import ContractAudit.Log.Record
import ContractAudit.Log.Routing
import ContractAudit.Main
import ContractAudit.Number.Binary64
import ContractAudit.Number.Reading
import ContractAudit.Number.Rounding
import ContractAudit.Number.Shortest
import ContractAudit.Report.Csv
import ContractAudit.Report.Format
import ContractAudit.Report.Grid
import ContractAudit.Report.Json
import ContractAudit.Report.Wrap
import ContractAudit.Run.Analysis
import ContractAudit.Run.Discovery
import ContractAudit.Run.Engine
import ContractAudit.Run.Journal
import ContractAudit.Script.Callable
import ContractAudit.Script.Declaration
import ContractAudit.Script.Element
import ContractAudit.Script.Expression
import ContractAudit.Script.Grammar
import ContractAudit.Script.Linkage
import ContractAudit.Script.Literal
import ContractAudit.Script.Parser
import ContractAudit.Script.Pattern
import ContractAudit.Script.Source
import ContractAudit.Script.Statement
import ContractAudit.Script.Type
import ContractAudit.Text.Blank
import ContractAudit.Text.CharRange
import ContractAudit.Text.Decoding
import ContractAudit.Text.Markup
import ContractAudit.Text.Pictograph
import ContractAudit.Text.Printable
import ContractAudit.Text.Quoted
import ContractAudit.Text.Segments
import ContractAudit.Text.Width
import ContractAudit.Toml.Document
import ContractAudit.Toml.Flaw
import ContractAudit.Toml.Scalar
import ContractAudit.Toml.Text
import ContractAudit.Tree.Concrete
import ContractAudit.Tree.Extraction
import ContractAudit.Tree.Language
import ContractAudit.Tree.Lowering
import ContractAudit.Tree.Node
import ContractAudit.Proofs.Coverage.Recording
import ContractAudit.Proofs.Coverage.History
import ContractAudit.Proofs.Tree.Image
import ContractAudit.Proofs.Tree.Counts
import ContractAudit.Proofs.Number.Nearest
import ContractAudit.Proofs.Coverage.Range
import ContractAudit.Proofs.Coverage.Verdict
import ContractAudit.Proofs.Coverage.Monotone
import ContractAudit.Proofs.Run.Engine
import ContractAudit.Proofs.Run.Contract
import ContractAudit.Proofs.Run.Aggregate
import ContractAudit.Proofs.Run.Tolerance
import ContractAudit.Proofs.Tree.Preorder
import ContractAudit.Proofs.Tree.Visits
import ContractAudit.Proofs.Tree.OptionalCalls
import ContractAudit.Proofs.Tree.SourceOrder
import ContractAudit.Proofs.Tree.Comments
import ContractAudit.Proofs.Tree.ErrorSearch
import ContractAudit.Proofs.Tree.Detection
import ContractAudit.Proofs.Tree.Nesting
import ContractAudit.Proofs.Tree.Budget
import ContractAudit.Proofs.Tree.Extraction
import ContractAudit.Proofs.Files.RelativePath
import ContractAudit.Proofs.Run.Discovery
import ContractAudit.Proofs.Config.Layers
import ContractAudit.Proofs.Config.Refusal
import ContractAudit.Proofs.Config.Precedence
import ContractAudit.Proofs.Config.Escape
import ContractAudit.Proofs.Config.Validation
import ContractAudit.Proofs.Config.Doubles
import ContractAudit.Proofs.Files.Frame
import ContractAudit.Proofs.Run.Analysis
import ContractAudit.Proofs.Run.SizeLimit
import ContractAudit.Proofs.Command.Course
import ContractAudit.Proofs.Command.Outcome
import ContractAudit.Proofs.Number.Decimals
import ContractAudit.Proofs.Report.CsvReading
import ContractAudit.Proofs.Number.RoundingInterval
import ContractAudit.Proofs.Number.Scaling
import ContractAudit.Proofs.Number.ShortestReading
import ContractAudit.Proofs.Number.Numerals
import ContractAudit.Proofs.Report.JsonText
import ContractAudit.Proofs.Report.JsonReading
import ContractAudit.Proofs.Report.Agreement
import ContractAudit.Proofs.Tree.Rearrangement
import ContractAudit.Proofs.Text.Segments
import ContractAudit.Proofs.Run.Exclusion
import ContractAudit.Proofs.Text.Trimming
import ContractAudit.Proofs.Toml.ListDocument
import ContractAudit.Proofs.Config.ListVariables
import ContractAudit.Proofs.Files.Resolution
import ContractAudit.Proofs.Files.Selection
import ContractAudit.Proofs.Run.Confinement
