import Packrat.Breach
import Packrat.Breach.Message
import Packrat.Grammar.Arithmetic
import Packrat.Grammar.Basic
import Packrat.Grammar.Catalog
import Packrat.Grammar.Error
import Packrat.Grammar.JsonValue
import Packrat.Grammar.Lexical
import Packrat.Json
import Packrat.Palette
import Packrat.Parse.Apply
import Packrat.Parse.Context
import Packrat.Parse.Event
import Packrat.Parse.Failure
import Packrat.Parse.Limits
import Packrat.Parse.Parser
import Packrat.Parse.State
import Packrat.Proofs.Adequacy
import Packrat.Proofs.Alone
import Packrat.Proofs.ArithmeticDepth
import Packrat.Proofs.ArithmeticLanguage
import Packrat.Proofs.ArithmeticReading
import Packrat.Proofs.ArithmeticSpacing
import Packrat.Proofs.ArithmeticTrees
import Packrat.Proofs.ArithmeticWork
import Packrat.Proofs.Boundaries
import Packrat.Proofs.Budget
import Packrat.Proofs.Building
import Packrat.Proofs.Catalog
import Packrat.Proofs.Comments
import Packrat.Proofs.Completion
import Packrat.Proofs.Content
import Packrat.Proofs.Contract
import Packrat.Proofs.Correctness
import Packrat.Proofs.Counters
import Packrat.Proofs.Depth
import Packrat.Proofs.Diagnosis
import Packrat.Proofs.Drawing
import Packrat.Proofs.Engine
import Packrat.Proofs.Execution
import Packrat.Proofs.Expectation
import Packrat.Proofs.Fillers
import Packrat.Proofs.Frame
import Packrat.Proofs.Graph
import Packrat.Proofs.Identity
import Packrat.Proofs.Interchange
import Packrat.Proofs.JsonDepth
import Packrat.Proofs.JsonDocuments
import Packrat.Proofs.JsonExport
import Packrat.Proofs.JsonLanguage
import Packrat.Proofs.JsonReading
import Packrat.Proofs.JsonRoundTrip
import Packrat.Proofs.JsonSpacing
import Packrat.Proofs.JsonTexts
import Packrat.Proofs.JsonWork
import Packrat.Proofs.Laminarity
import Packrat.Proofs.Layout
import Packrat.Proofs.Leaves
import Packrat.Proofs.Legibility
import Packrat.Proofs.Lexemes
import Packrat.Proofs.LexicalWork
import Packrat.Proofs.Limits
import Packrat.Proofs.Lookahead
import Packrat.Proofs.Markup
import Packrat.Proofs.Memoization
import Packrat.Proofs.Naming
import Packrat.Proofs.Nesting
import Packrat.Proofs.NumberTokens
import Packrat.Proofs.Numerals
import Packrat.Proofs.Occurrence
import Packrat.Proofs.Origin
import Packrat.Proofs.Outline
import Packrat.Proofs.Parsing
import Packrat.Proofs.Preorder
import Packrat.Proofs.Progress
import Packrat.Proofs.QuotedStrings
import Packrat.Proofs.Reachable
import Packrat.Proofs.Reading
import Packrat.Proofs.Recursion
import Packrat.Proofs.Refactoring
import Packrat.Proofs.Registration
import Packrat.Proofs.Replay
import Packrat.Proofs.Semantics
import Packrat.Proofs.Shifting
import Packrat.Proofs.Spacing
import Packrat.Proofs.Stability
import Packrat.Proofs.Stalling
import Packrat.Proofs.Sufficiency
import Packrat.Proofs.Termination
import Packrat.Proofs.Tracing
import Packrat.Proofs.Vectors
import Packrat.Proofs.Verdict
import Packrat.Proofs.Work
import Packrat.Regex
import Packrat.Regex.Basic
import Packrat.Regex.Expression
import Packrat.Regex.Modes
import Packrat.Regex.Pattern
import Packrat.Regex.Program
import Packrat.Regex.Property
import Packrat.Regex.Reader
import Packrat.Regex.Search
import Packrat.Report.Failure
import Packrat.Report.Snippet
import Packrat.Report.SourceLine
import Packrat.Rule.Basic
import Packrat.Rule.Build
import Packrat.Rule.Display
import Packrat.Span
import Packrat.Text.Escape
import Packrat.Text.Hex
import Packrat.Text.Inspect
import Packrat.Text.Offset
import Packrat.Text.Position
import Packrat.Text.Quoted
import Packrat.Text.Truncate
import Packrat.Token.Basic
import Packrat.Token.Export
import Packrat.Token.Walk
import Packrat.Trace.Count
import Packrat.Trace.Lines
import Packrat.Trace.Record
import Packrat.Unicode.Addition
import Packrat.Unicode.Age
import Packrat.Unicode.BinaryProperty
import Packrat.Unicode.Category
import Packrat.Unicode.Character
import Packrat.Unicode.CodeSet
import Packrat.Unicode.Folding
import Packrat.Unicode.Script
import Packrat.Unicode.Segmentation
import Packrat.Unicode.Width
import Packrat.Workspace
