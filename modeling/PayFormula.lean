import PayFormula.Power
import PayFormula.Text.Bands
import PayFormula.Text.Blank
import PayFormula.Text.Digit
import PayFormula.Text.Letter
import PayFormula.Text.Printable
import PayFormula.Text.Cased
import PayFormula.Text.Case
import PayFormula.Text.Quoted
import PayFormula.Text.Replace
import PayFormula.Decimal.Basic
import PayFormula.Decimal.Text
import PayFormula.Decimal.Rounding
import PayFormula.Decimal.Scaled
import PayFormula.Decimal.Rates
import PayFormula.Decimal.Proration
import PayFormula.Decimal.Allocation
import PayFormula.Decimal.Grouped
import PayFormula.Binary64.Basic
import PayFormula.Binary64.Nearest
import PayFormula.Binary64.Shortest
import PayFormula.Date.Basic
import PayFormula.Date.Text
import PayFormula.Table
import PayFormula.Value.Scientific
import PayFormula.Value.Basic
import PayFormula.Value.Equality
import PayFormula.Value.Number
import PayFormula.Value.DataFault
import PayFormula.Formula.Token
import PayFormula.Formula.SyntaxFault
import PayFormula.Formula.DepthCap
import PayFormula.Formula.Lexer
import PayFormula.Formula.Basic
import PayFormula.Formula.Parser
import PayFormula.Formula.Dependencies
import PayFormula.Fault
import PayFormula.Signature
import PayFormula.Value.Shape
import PayFormula.Formula.Pieces
import PayFormula.Amount.Scale
import PayFormula.Amount.Basic
import PayFormula.Amount.Display
import PayFormula.Amount.Operation
import PayFormula.Json.Reader
import PayFormula.Evaluation.Arity
import PayFormula.Evaluation.Inquiry
import PayFormula.Evaluation.Event
import PayFormula.Evaluation.Run
import PayFormula.Evaluation.Resolution
import PayFormula.Evaluation.Context
import PayFormula.Evaluation.Functions
import PayFormula.Evaluation.Evaluator
import PayFormula.Engine.Settings
import PayFormula.Engine.Source
import PayFormula.Engine.Basic
import PayFormula.Engine.FormulaSet
import PayFormula.Engine.Batch
import PayFormula.Request.Complaint
import PayFormula.Request.Field
import PayFormula.Request.Form
import PayFormula.Request.Endpoint
import PayFormula.Proofs.Text.Case
import PayFormula.Proofs.Decimal.Worth
import PayFormula.Proofs.Decimal.Numeral
import PayFormula.Proofs.Decimal.Canonical
import PayFormula.Proofs.Decimal.Exponent
import PayFormula.Proofs.Decimal.Conservation
import PayFormula.Proofs.Decimal.Rounding
import PayFormula.Proofs.Decimal.Prescription
import PayFormula.Proofs.Formula.Grammar
import PayFormula.Proofs.Formula.Soundness
import PayFormula.Proofs.Formula.Reading
import PayFormula.Proofs.Formula.Height
import PayFormula.Proofs.Formula.Sources
import PayFormula.Proofs.Evaluation.Calculation
import PayFormula.Proofs.Table
import PayFormula.Proofs.Value.Scientific
import PayFormula.Proofs.Value.Layout
import PayFormula.Proofs.Value.Normalization
import PayFormula.Proofs.Text.Replace
import PayFormula.Proofs.Decimal.Grouped
import PayFormula.Proofs.Value.Equality
import PayFormula.Proofs.Value.Shape
import PayFormula.Proofs.Formula.Nodes
import PayFormula.Proofs.Text.Blank
import PayFormula.Proofs.Formula.Written
import PayFormula.Proofs.Evaluation.Course
import PayFormula.Proofs.Evaluation.Resolution
import PayFormula.Proofs.Evaluation.Shown
import PayFormula.Proofs.Evaluation.Ledger
import PayFormula.Proofs.Evaluation.Coverage
import PayFormula.Proofs.Evaluation.Determination
import PayFormula.Proofs.Evaluation.Skipping
import PayFormula.Proofs.Engine.History
import PayFormula.Proofs.Amount.Arithmetic
import PayFormula.Proofs.Amount.Display
import PayFormula.Proofs.Amount.Rounding
import PayFormula.Proofs.Decimal.Shares
import PayFormula.Proofs.Amount.Allocation
import PayFormula.Proofs.Decimal.Choice
import PayFormula.Proofs.Decimal.Settlement
import PayFormula.Proofs.Amount.Proportion
import PayFormula.Proofs.Amount.Power
import PayFormula.Proofs.Amount.Root
import PayFormula.Proofs.Decimal.Ratios
import PayFormula.Proofs.Amount.Ratios
import PayFormula.Proofs.Amount.NetGross
import PayFormula.Proofs.Amount.Comparison
import PayFormula.Proofs.Amount.Clamping
import PayFormula.Proofs.Amount.Totals
import PayFormula.Proofs.Engine.Validation
import PayFormula.Proofs.Engine.Batch
import PayFormula.Proofs.Evaluation.Comparison
import PayFormula.Proofs.Evaluation.ZeroGuard
import PayFormula.Proofs.Value.Misreading
import PayFormula.Proofs.Evaluation.Supply
import PayFormula.Proofs.Formula.Identifiers
import PayFormula.Proofs.Engine.Binding
import PayFormula.Proofs.Evaluation.Rewriting
import PayFormula.Proofs.Engine.Atomicity
import PayFormula.Proofs.Evaluation.GroupTotals
import PayFormula.Proofs.Formula.NumberLiterals
import PayFormula.Proofs.Formula.Boundaries
import PayFormula.Proofs.Formula.QuotedTexts
import PayFormula.Proofs.Formula.Lookahead
import PayFormula.Proofs.Formula.Layout
import PayFormula.Proofs.Formula.Room
import PayFormula.Proofs.Formula.DepthCounter
import PayFormula.Proofs.Formula.Scanning
import PayFormula.Proofs.Formula.Places
import PayFormula.Proofs.Formula.Prefixes
import PayFormula.Proofs.Formula.Spelling
import PayFormula.Proofs.Formula.Traversal
import PayFormula.Proofs.Request.Checks
import PayFormula.Proofs.Request.Groups
import PayFormula.Proofs.Request.FormulaSet
