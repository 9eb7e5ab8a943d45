import CondDoc.Text.Blank
import CondDoc.Text.Letter
import CondDoc.Text.Numeral
import CondDoc.Text.Lower
import CondDoc.Text.Pieces
import CondDoc.Text.Occurs
import CondDoc.Text.Quoted
import CondDoc.Number.Shortest
import CondDoc.Step
import CondDoc.Json.Layout
import CondDoc.Json.Reader
import CondDoc.Value.Datum
import CondDoc.Value.Text
import CondDoc.Value.Equality
import CondDoc.Expression
import CondDoc.Document
import CondDoc.Trace.Export
import CondDoc.Schema.Options
import CondDoc.Schema.Trace
import CondDoc.Schema.Value
import CondDoc.Session
import CondDoc.Proofs.Document.Stable
import CondDoc.Proofs.Document.Strict
import CondDoc.Proofs.Expression.Static
import CondDoc.Proofs.Expression.Substitution
import CondDoc.Proofs.Expression.Completeness
import CondDoc.Proofs.Document.Directives
import CondDoc.Proofs.Document.Balanced
import CondDoc.Proofs.Document.Shape
import CondDoc.Proofs.Resolver.Defaults
import CondDoc.Proofs.Builtin.Case
import CondDoc.Proofs.Text.Classes
import CondDoc.Proofs.Text.Spelling
import CondDoc.Proofs.Token.Spelling
import CondDoc.Proofs.Token.Lexer
import CondDoc.Proofs.Token.Readable
import CondDoc.Proofs.Expression.Failures
import CondDoc.Proofs.Document.Located
import CondDoc.Proofs.Document.Record
import CondDoc.Proofs.Document.Shift
import CondDoc.Proofs.Document.Joined
import CondDoc.Proofs.Document.LineClasses
import CondDoc.Proofs.Document.Pattern
import CondDoc.Proofs.Document.BlankExpression
import CondDoc.Proofs.Value.Json
import CondDoc.Proofs.Trace.Json
import CondDoc.Proofs.Expression.MethodCall
import CondDoc.Proofs.Expression.Membership
import CondDoc.Proofs.Token.Concatenation
import CondDoc.Proofs.Resolver.Spelling
import CondDoc.Proofs.Resolver.Path
import CondDoc.Proofs.Resolver.Merging
import CondDoc.Proofs.Document.FirstBranch
import CondDoc.Proofs.Document.Removal
import CondDoc.Proofs.Expression.Progress
import CondDoc.Proofs.Trace.Summary
import CondDoc.Proofs.Value.Equality
import CondDoc.Proofs.Value.Plain
