import DocTemplate.Cache.Run
import DocTemplate.Config.Written
import DocTemplate.Engine
import DocTemplate.Expr.Written
import DocTemplate.Proofs.Expr.Completeness
import DocTemplate.Proofs.Cache.Contents
import DocTemplate.Proofs.Engine.Transparency
import DocTemplate.Proofs.Binding.Interpolation
import DocTemplate.Proofs.Engine.Runs
import DocTemplate.Proofs.Binding.Scanning
import DocTemplate.Proofs.Binding.Decomposition
import DocTemplate.Proofs.Cache.Ranking
import DocTemplate.Proofs.Cache.Recency
import DocTemplate.Proofs.Expr.Dependence
import DocTemplate.Proofs.Binding.Outcome
import DocTemplate.Proofs.Document.Parts
import DocTemplate.Proofs.Document.Outcome
import DocTemplate.Proofs.Engine.Expansion
import DocTemplate.Proofs.Text.Blank
import DocTemplate.Proofs.Token.Blanks
import DocTemplate.Proofs.Binding.Wrapping
import DocTemplate.Proofs.Document.Correspondence
import DocTemplate.Proofs.Engine.Directives
import DocTemplate.Proofs.Document.FixedPoint
import DocTemplate.Proofs.Document.Expressions
import DocTemplate.Proofs.Text.Splitting
import DocTemplate.Proofs.Scope.Paths
import DocTemplate.Proofs.Engine.Root
import DocTemplate.Proofs.Token.Spelling
import DocTemplate.Proofs.Expr.Paths
import DocTemplate.Proofs.Decimal.Shortest
import DocTemplate.Proofs.Json.Scalars
import DocTemplate.Proofs.Json.Numbers
import DocTemplate.Proofs.Json.Spelling
import DocTemplate.Proofs.Number.Integers
import DocTemplate.Proofs.Value.Settled
import DocTemplate.Proofs.Value.RoundTrip
import DocTemplate.Proofs.Cache.Changes
import DocTemplate.Proofs.Cache.Bounds
import DocTemplate.Proofs.Cache.Accounting
import DocTemplate.Proofs.Token.Writing
import DocTemplate.Proofs.Expr.Printing
import DocTemplate.Proofs.Expr.RoundTrip
import DocTemplate.Proofs.Pattern.Store
import DocTemplate.Proofs.Cache.Expiry
import DocTemplate.Proofs.Calendar.Shifting
import DocTemplate.Proofs.Pattern.Enclosing
import DocTemplate.Proofs.Expr.Semantics
import DocTemplate.Proofs.Expr.Failures
import DocTemplate.Proofs.Decimal.Numerals
import DocTemplate.Proofs.Function.Failures
import DocTemplate.Proofs.Engine.Answers
import DocTemplate.Proofs.Binding.Filling
import DocTemplate.Proofs.Engine.Processing
import DocTemplate.Proofs.Document.Rows
import DocTemplate.Proofs.Engine.Rows
import DocTemplate.Proofs.Function.Pieces
import DocTemplate.Proofs.Expr.Twins
import DocTemplate.Proofs.Function.Formatting
import DocTemplate.Proofs.Value.Equality
import DocTemplate.Proofs.Text.Places
import DocTemplate.Proofs.Function.Slicing
import DocTemplate.Proofs.Function.Searching
import DocTemplate.Proofs.Number.Ordering
import DocTemplate.Proofs.Function.Sorting
import DocTemplate.Proofs.Function.Sets
import DocTemplate.Proofs.Calendar.Durations
import DocTemplate.Proofs.Calendar.Rendering
import DocTemplate.Proofs.Calendar.Quoting
import DocTemplate.Proofs.Cache.Frame
import DocTemplate.Proofs.Token.Lexemes
import DocTemplate.Proofs.Expr.Steps
import DocTemplate.Proofs.Expr.Cursor
import DocTemplate.Proofs.Expr.Progress
