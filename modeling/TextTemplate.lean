import TextTemplate.Context.Normalize
import TextTemplate.Engine.Basic
import TextTemplate.Engine.Error
import TextTemplate.Engine.Options
import TextTemplate.Engine.Resolvers
import TextTemplate.Eval.Access
import TextTemplate.Eval.Error
import TextTemplate.Eval.Evaluator
import TextTemplate.Eval.Operators
import TextTemplate.Expr.Basic
import TextTemplate.Expr.Builder
import TextTemplate.Expr.Interchange
import TextTemplate.Expr.ParseError
import TextTemplate.Expr.Parser
import TextTemplate.Expr.Precedence
import TextTemplate.Grammar.Cursor
import TextTemplate.Grammar.Goal
import TextTemplate.Grammar.Lexical
import TextTemplate.Grammar.Literal
import TextTemplate.Grammar.Pair
import TextTemplate.Grammar.Parser
import TextTemplate.Grammar.Rules
import TextTemplate.Json.Basic
import TextTemplate.Json.Document
import TextTemplate.Json.Float
import TextTemplate.Json.Parser
import TextTemplate.Json.Printer
import TextTemplate.Keyed
import TextTemplate.Library.Basic
import TextTemplate.Library.Samples
import TextTemplate.Library.Standard
import TextTemplate.Number.Decimal
import TextTemplate.Number.Digits
import TextTemplate.Number.FloatReader
import TextTemplate.Number.FloatText
import TextTemplate.Number.Shortest
import TextTemplate.Number.Word
import TextTemplate.Report.Diagnostic
import TextTemplate.Report.Drawing
import TextTemplate.Report.Line
import TextTemplate.Report.Piece
import TextTemplate.Text.Case
import TextTemplate.Text.CaseTable
import TextTemplate.Text.CodeRange
import TextTemplate.Text.Columns
import TextTemplate.Text.HiddenTable
import TextTemplate.Text.Quoted
import TextTemplate.Time.Calendar
import TextTemplate.Time.Reader
import TextTemplate.Time.Timestamp
import TextTemplate.Value.Basic
import TextTemplate.Value.Json
import TextTemplate.Value.Range
import TextTemplate.Value.Text
import TextTemplate.Proofs.Eval.Closures
import TextTemplate.Proofs.Eval.Dialogue
import TextTemplate.Proofs.Eval.Sequential
import TextTemplate.Proofs.Eval.Endless
import TextTemplate.Proofs.Eval.Faults
import TextTemplate.Proofs.Grammar.Reading
import TextTemplate.Proofs.Grammar.Spelling
import TextTemplate.Proofs.Grammar.Phrase
import TextTemplate.Proofs.Grammar.Recognizer
import TextTemplate.Proofs.Grammar.Mirrors
import TextTemplate.Proofs.Number.Digits
import TextTemplate.Proofs.Number.Rounding
import TextTemplate.Proofs.Number.Overflow
import TextTemplate.Proofs.Text.Case
import TextTemplate.Proofs.Grammar.Tokens
import TextTemplate.Proofs.Grammar.Shapes
import TextTemplate.Proofs.Expr.Building
import TextTemplate.Proofs.Expr.Parsing
import TextTemplate.Proofs.Grammar.Operands
import TextTemplate.Proofs.Expr.Nodes
import TextTemplate.Proofs.Grammar.Items
import TextTemplate.Proofs.Expr.Surface
import TextTemplate.Proofs.Expr.Grouping
import TextTemplate.Proofs.Expr.Chain
import TextTemplate.Proofs.Time.Calendar
import TextTemplate.Proofs.Time.Forms
import TextTemplate.Proofs.Time.Formats
import TextTemplate.Proofs.Time.Text
import TextTemplate.Proofs.Expr.Literal
import TextTemplate.Proofs.Context.Keys
import TextTemplate.Proofs.Context.Normalize
import TextTemplate.Proofs.Context.Built
import TextTemplate.Proofs.Context.HostForms
import TextTemplate.Proofs.Engine.Overrides
import TextTemplate.Proofs.Engine.Sessions
import TextTemplate.Proofs.Value.Range
import TextTemplate.Proofs.Value.Access
import TextTemplate.Proofs.Value.Changed
import TextTemplate.Proofs.Library.Length
import TextTemplate.Proofs.Value.Pruned
import TextTemplate.Proofs.Eval.Alike
import TextTemplate.Proofs.Eval.Relevance
import TextTemplate.Proofs.Eval.Outlasts
import TextTemplate.Proofs.Eval.Limits
import TextTemplate.Proofs.Grammar.Extent
import TextTemplate.Proofs.Grammar.Progress
import TextTemplate.Proofs.Grammar.Segments
import TextTemplate.Proofs.Expr.Escaping
import TextTemplate.Proofs.Json.Numbers
import TextTemplate.Proofs.Expr.Blocks
import TextTemplate.Proofs.Expr.Leaves
import TextTemplate.Proofs.Expr.Interchange
import TextTemplate.Proofs.Expr.Parsed
import TextTemplate.Proofs.Expr.Spans
import TextTemplate.Proofs.Expr.Storage
import TextTemplate.Proofs.Grammar.Refusals
import TextTemplate.Proofs.Grammar.Nesting
import TextTemplate.Proofs.Grammar.Written
import TextTemplate.Proofs.Number.Whole
import TextTemplate.Proofs.Number.Nearest
import TextTemplate.Proofs.Grammar.Denotation
import TextTemplate.Proofs.Expr.Refused
import TextTemplate.Proofs.Expr.Admitted
import TextTemplate.Proofs.Expr.FirstBad
import TextTemplate.Proofs.Grammar.Moved
import TextTemplate.Proofs.Grammar.Brackets
import TextTemplate.Proofs.Grammar.Enclosed
import TextTemplate.Proofs.Expr.Joined
import TextTemplate.Proofs.Expr.Forms
import TextTemplate.Proofs.Expr.Bare
import TextTemplate.Proofs.Report.Lines
import TextTemplate.Proofs.Report.Location
import TextTemplate.Proofs.Value.Iteration
import TextTemplate.Proofs.Value.Legible
import TextTemplate.Proofs.Value.Slice
import TextTemplate.Proofs.Library.Map
import TextTemplate.Proofs.Eval.Substitution
import TextTemplate.Proofs.Eval.Counter
import TextTemplate.Proofs.Eval.Relocated
import TextTemplate.Proofs.Eval.Deeper
import TextTemplate.Proofs.Eval.Joining
import TextTemplate.Proofs.Eval.Arithmetic
import TextTemplate.Proofs.Expr.Scalars
import TextTemplate.Proofs.Expr.Timestamps
import TextTemplate.Proofs.Context.Integers
import TextTemplate.Proofs.Number.Amounts
import TextTemplate.Proofs.Value.Equality
