import FieldQuery.Text.Words
import FieldQuery.Text.Escape
import FieldQuery.Number.Rounding
import FieldQuery.Number.Layout
import FieldQuery.Number.Reading
import FieldQuery.Number.Spelling
import FieldQuery.Json.Lexer
import FieldQuery.Json.Parser
import FieldQuery.Json.Record
import FieldQuery.Expression.Builder
import FieldQuery.Query.Render
import FieldQuery.Query.Pattern
import FieldQuery.Compilation.Predicate
import FieldQuery.Expression.Codec
import FieldQuery.Query.Codec
import FieldQuery.Compilation.Codec
import FieldQuery.Proofs.Pattern.Literal
import FieldQuery.Proofs.Text.Words
import FieldQuery.Proofs.Text.Splitting
import FieldQuery.Proofs.Compilation.Outcome
import FieldQuery.Proofs.Expression.Structure
import FieldQuery.Proofs.Compilation.Domain
import FieldQuery.Proofs.Compilation.Folding
import FieldQuery.Proofs.Compilation.Stability
import FieldQuery.Proofs.Query.Verdict
import FieldQuery.Proofs.Query.Unescaping
import FieldQuery.Proofs.Compilation.Search
import FieldQuery.Proofs.Text.FoldedWords
import FieldQuery.Proofs.Text.FoldedEscape
import FieldQuery.Proofs.Compilation.Operands
import FieldQuery.Proofs.Expression.FoldCase
import FieldQuery.Proofs.Compilation.Correspondence
import FieldQuery.Proofs.Compilation.CaseInsensitivity
import FieldQuery.Proofs.Compilation.Likeness
import FieldQuery.Proofs.Json.Numeral
import FieldQuery.Proofs.Json.Quotation
import FieldQuery.Proofs.Json.RoundTrip
import FieldQuery.Proofs.Query.RoundTrip
import FieldQuery.Proofs.Query.Legibility
import FieldQuery.Proofs.Compilation.Legibility
import FieldQuery.Proofs.Calendar
import FieldQuery.Proofs.Json.Record
import FieldQuery.Proofs.Expression.RoundTrip
import FieldQuery.Proofs.Query.Resending
import FieldQuery.Proofs.Compilation.Reading
import FieldQuery.Proofs.Compilation.Building
import FieldQuery.Proofs.Compilation.Shape
import FieldQuery.Proofs.Expression.Frames
import FieldQuery.Proofs.Compilation.Faults
import FieldQuery.Proofs.Compilation.Membership
import FieldQuery.Proofs.SortOrder
import FieldQuery.Proofs.Compilation.ArgumentCounts
import FieldQuery.Proofs.Text.Balance
import FieldQuery.Proofs.Compilation.Balance
import FieldQuery.Proofs.Pattern.Reading
import FieldQuery.Proofs.Sorting
import FieldQuery.Proofs.Compilation.Trace
import FieldQuery.Proofs.Number.Text
import FieldQuery.Proofs.Query.Ambiguity
import FieldQuery.Proofs.Compilation.Wrapping
import FieldQuery.Proofs.Compilation.SqlPatterns
import FieldQuery.Proofs.Number.Lexicographic
import FieldQuery.Proofs.CalendarOrder
import FieldQuery.Proofs.Compilation.Intervals
import FieldQuery.Proofs.Compilation.Ordering
import FieldQuery.Proofs.Text.CaseShift
import FieldQuery.Proofs.Text.CaseTie
import FieldQuery.Proofs.Compilation.EqualArguments
import FieldQuery.Proofs.Compilation.EqualPredicates
import FieldQuery.Proofs.Query.Spelling
