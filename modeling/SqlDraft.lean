import SqlDraft.Builder.Basic
import SqlDraft.Builder.Call
import SqlDraft.Builder.Desk
import SqlDraft.Builder.Note
import SqlDraft.Builder.Step
import SqlDraft.Combinator
import SqlDraft.Condition.Basic
import SqlDraft.Condition.Comparison
import SqlDraft.Condition.Substitution
import SqlDraft.Failure
import SqlDraft.Journal.Basic
import SqlDraft.Journal.Layout
import SqlDraft.Journal.Level
import SqlDraft.Kind
import SqlDraft.Number.Binary64
import SqlDraft.Number.Decimal
import SqlDraft.Number.Digits
import SqlDraft.Number.Numeral
import SqlDraft.Number.Scaled
import SqlDraft.Number.Shortest
import SqlDraft.Number.Spelling
import SqlDraft.Proofs.Accumulation
import SqlDraft.Proofs.Category
import SqlDraft.Proofs.ClauseText
import SqlDraft.Proofs.Containment
import SqlDraft.Proofs.DialectLiteral
import SqlDraft.Proofs.FirstLiteral
import SqlDraft.Proofs.Formula
import SqlDraft.Proofs.FormulaText
import SqlDraft.Proofs.Gating
import SqlDraft.Proofs.HavingFormula
import SqlDraft.Proofs.History
import SqlDraft.Proofs.Kind
import SqlDraft.Proofs.Literal
import SqlDraft.Proofs.LiteralClause
import SqlDraft.Proofs.NumberText
import SqlDraft.Proofs.Numeral
import SqlDraft.Proofs.NumericText
import SqlDraft.Proofs.Operand
import SqlDraft.Proofs.Parametricity
import SqlDraft.Proofs.Peeling
import SqlDraft.Proofs.PlainClause
import SqlDraft.Proofs.PlainCondition
import SqlDraft.Proofs.PlainHead
import SqlDraft.Proofs.PlainLayout
import SqlDraft.Proofs.PlainStatement
import SqlDraft.Proofs.PlainText
import SqlDraft.Proofs.Precedence
import SqlDraft.Proofs.QuoterLiteral
import SqlDraft.Proofs.Rearrangement
import SqlDraft.Proofs.Refusal
import SqlDraft.Proofs.Registration
import SqlDraft.Proofs.Rendering
import SqlDraft.Proofs.Segments
import SqlDraft.Proofs.Session
import SqlDraft.Proofs.Template
import SqlDraft.Proofs.Token
import SqlDraft.Proofs.Typed
import SqlDraft.Proofs.Unambiguity
import SqlDraft.Quoter.Basic
import SqlDraft.Quoter.Dialect
import SqlDraft.Quoter.Literal
import SqlDraft.Quoter.Registry
import SqlDraft.Quoter.Rule
import SqlDraft.Record.Basic
import SqlDraft.Record.Field
import SqlDraft.Record.Join
import SqlDraft.Record.Options
import SqlDraft.Record.OrderTerm
import SqlDraft.Statement.Assembly
import SqlDraft.Statement.Basic
import SqlDraft.Statement.Clause
import SqlDraft.Text.Blank
import SqlDraft.Text.CharacterSet
import SqlDraft.Text.Printable
import SqlDraft.Text.Quoted
import SqlDraft.Text.Replace
import SqlDraft.Text.Uppercase
import SqlDraft.Text.Word
import SqlDraft.Value.Basic
import SqlDraft.Value.Display
import SqlDraft.Value.Key
import SqlDraft.Proofs.ExactNumber
import SqlDraft.Proofs.Segmentation
import SqlDraft.Proofs.GroupCondition
