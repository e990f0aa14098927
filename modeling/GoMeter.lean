import GoMeter.Calls
import GoMeter.CommandLine.Invocation
import GoMeter.CommandLine.Options
import GoMeter.CommandLine.Run
import GoMeter.Comments.Group
import GoMeter.Comments.Ownership
import GoMeter.Config.Basic
import GoMeter.Config.Check
import GoMeter.Config.Load
import GoMeter.Config.Merge
import GoMeter.Config.Show
import GoMeter.Data.Display
import GoMeter.Data.Integer
import GoMeter.Data.Stamp
import GoMeter.Data.Value
import GoMeter.Discovery
import GoMeter.FileSystem
import GoMeter.FunctionRecord
import GoMeter.Go.Cursor
import GoMeter.Go.Declarations
import GoMeter.Go.Expressions
import GoMeter.Go.Grammar
import GoMeter.Go.Lexer
import GoMeter.Go.Numeral
import GoMeter.Go.Statements
import GoMeter.Go.Token
import GoMeter.Go.TypeReading
import GoMeter.Go.Types
import GoMeter.Json.Reader
import GoMeter.Json.Writer
import GoMeter.Lines.Directive
import GoMeter.Lines.Map
import GoMeter.Lines.Scan
import GoMeter.Log
import GoMeter.Main
import GoMeter.Measure
import GoMeter.Number.Binary64
import GoMeter.Number.Decimal
import GoMeter.Path
import GoMeter.Pattern.Glob
import GoMeter.Pattern.Ignore
import GoMeter.Pattern.Selection
import GoMeter.Proofs.Calls
import GoMeter.Proofs.Calls.Nested
import GoMeter.Proofs.CommandLine.Analyze
import GoMeter.Proofs.CommandLine.Steps
import GoMeter.Proofs.Comments.Ownership
import GoMeter.Proofs.Comments.Partition
import GoMeter.Proofs.Comments.Renumbering
import GoMeter.Proofs.Comments.Runs
import GoMeter.Proofs.Config.Faithful
import GoMeter.Proofs.Config.Fallback
import GoMeter.Proofs.Config.FixedPoint
import GoMeter.Proofs.Config.Law
import GoMeter.Proofs.Config.Silence
import GoMeter.Proofs.Discovery
import GoMeter.Proofs.Discovery.Monotone
import GoMeter.Proofs.DocumentOrder
import GoMeter.Proofs.Json.Characters
import GoMeter.Proofs.Json.RoundTrip
import GoMeter.Proofs.Json.Scalar
import GoMeter.Proofs.Lines.Governing
import GoMeter.Proofs.Lines.Grammar
import GoMeter.Proofs.Lines.Malformed
import GoMeter.Proofs.Lines.Newlines
import GoMeter.Proofs.Lines.SinglePass
import GoMeter.Proofs.Measure
import GoMeter.Proofs.Number.Decimal
import GoMeter.Proofs.Outcome
import GoMeter.Proofs.Path
import GoMeter.Proofs.Pattern.AnyDepth
import GoMeter.Proofs.Pattern.Literal
import GoMeter.Proofs.Pattern.Wildcards
import GoMeter.Proofs.Report.Markdown
import GoMeter.Proofs.Report.RoundTrip
import GoMeter.Proofs.Scope.Enclosure
import GoMeter.Proofs.Scope.FileLevel
import GoMeter.Proofs.Scope.History
import GoMeter.Proofs.Scope.Names
import GoMeter.Proofs.Scope.Refinement
import GoMeter.Proofs.Scope.Tasks
import GoMeter.Proofs.Scope.Unshadowed
import GoMeter.Proofs.Scope.Visited
import GoMeter.Proofs.Scope.Walk
import GoMeter.Proofs.Size.Opaque
import GoMeter.Proofs.Size.Recursion
import GoMeter.Proofs.Size.Weighed
import GoMeter.Proofs.Syntax.Broken
import GoMeter.Proofs.Syntax.Edit
import GoMeter.Proofs.Syntax.Layout
import GoMeter.Proofs.Syntax.Nested
import GoMeter.Proofs.Syntax.Order
import GoMeter.Proofs.Syntax.Site
import GoMeter.Proofs.Syntax.Strip
import GoMeter.Proofs.Syntax.Traversal
import GoMeter.Proofs.Text.Ascii
import GoMeter.Proofs.Text.Utf8
import GoMeter.Proofs.Trivia
import GoMeter.Proofs.Value
import GoMeter.Proofs.Yaml.Characters
import GoMeter.Refusal
import GoMeter.Report.Basic
import GoMeter.Report.Build
import GoMeter.Report.Json
import GoMeter.Report.Markdown
import GoMeter.Scope.Arena
import GoMeter.Scope.Basic
import GoMeter.Scope.File
import GoMeter.Scope.Resolve
import GoMeter.Size.Category
import GoMeter.Size.Count
import GoMeter.Source
import GoMeter.Syntax.Kind
import GoMeter.Syntax.Node
import GoMeter.Syntax.Rows
import GoMeter.Syntax.Soundness
import GoMeter.Text.Blank
import GoMeter.Text.DecimalDigit
import GoMeter.Text.Infix
import GoMeter.Text.Letter
import GoMeter.Text.Newlines
import GoMeter.Text.Printable
import GoMeter.Text.Quoted
import GoMeter.Text.Ranges
import GoMeter.Text.Utf8
import GoMeter.Yaml.Cursor
import GoMeter.Yaml.Fault
import GoMeter.Yaml.Layout
import GoMeter.Yaml.Node
import GoMeter.Yaml.Reader
import GoMeter.Yaml.Scalar
import GoMeter.Yaml.Tag
import GoMeter.Yaml.Token
import GoMeter.Yaml.Writer
