import Calculator.Arithmetic.Number
import Calculator.Arithmetic.Double
import Calculator.Decimal.Layout
import Calculator.Decimal.Reader
import Calculator.Text.Quoted
import Calculator.Value.Text
import Calculator.Expression.Lexer
import Calculator.Expression.Variable
import Calculator.Expression.Parser
import Calculator.Expression.Basic
import Calculator.Analysis.Difference
import Calculator.Analysis.Simpson
import Calculator.Plot.Sample
import Calculator.Finance.CashFlow
import Calculator.Finance.Option
import Calculator.Memo
import Calculator.Settings.Basic
import Calculator.Settings.Overlay
import Calculator.Settings.Check
import Calculator.Settings.Profile
import Calculator.Settings.Outline
import Calculator.Journal.Level
import Calculator.Failure.Basic
import Calculator.Session.Basic
import Calculator.Main
import Calculator.Proofs.Evaluation.Scope
import Calculator.Proofs.Parser.Correctness
import Calculator.Proofs.Evaluation.Totality
import Calculator.Proofs.Plot.Sample
import Calculator.Proofs.Lexer.Lexeme
import Calculator.Proofs.Lexer.Place
import Calculator.Proofs.Grammar.Front
import Calculator.Proofs.Grammar.Parenthesis
import Calculator.Proofs.Parser.Extent
import Calculator.Proofs.Parser.Refusal
import Calculator.Proofs.Parser.Explanation
import Calculator.Proofs.Parser.Unfinished
import Calculator.Proofs.Parser.EarliestError
import Calculator.Proofs.Memo.Recency
import Calculator.Proofs.Parser.ShownToken
import Calculator.Proofs.Session.History
import Calculator.Proofs.Failure.Place
import Calculator.Proofs.Session.Panel
import Calculator.Proofs.Arithmetic.Order
import Calculator.Proofs.Analysis.Newton
import Calculator.Proofs.Finance.Rate
import Calculator.Proofs.Settings.Layer
import Calculator.Proofs.Settings.Section
import Calculator.Proofs.Settings.Report
import Calculator.Proofs.Settings.Precedence
import Calculator.Proofs.Session.Course
import Calculator.Proofs.Session.Agreement
import Calculator.Proofs.Analysis.Total
import Calculator.Proofs.Session.Calculus
import Calculator.Proofs.Parser.ActiveLimit
import Calculator.Proofs.Analysis.Estimate
import Calculator.Proofs.Analysis.Resumption
import Calculator.Proofs.Analysis.Simpson
import Calculator.Proofs.Finance.Slope
import Calculator.Proofs.Finance.UnchangedSign
import Calculator.Proofs.Finance.Currency
import Calculator.Proofs.Finance.SinglePeriod
import Calculator.Proofs.Finance.Parity
import Calculator.Proofs.Finance.Quote
import Calculator.Proofs.Session.Sampling
import Calculator.Proofs.Evaluation.Restoration
import Calculator.Proofs.Evaluation.Occurrence
import Calculator.Proofs.Settings.VariableName
import Calculator.Proofs.Parser.Respacing
import Calculator.Proofs.Settings.Path
import Calculator.Proofs.Plot.LeftToRight
import Calculator.Proofs.Analysis.BadValue
import Calculator.Proofs.Finance.Reading
import Calculator.Proofs.Lexer.NumberScan
import Calculator.Proofs.Parser.Renaming
import Calculator.Proofs.Session.UnusableVariable
import Calculator.Proofs.Arithmetic.RoundingError
import Calculator.Proofs.Plot.Ends
