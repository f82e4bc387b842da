import PocketCalculator.Calculator
import PocketCalculator.Command.Run
import PocketCalculator.Command.Session
import PocketCalculator.Command.Transcript
import PocketCalculator.Command.Writing
import PocketCalculator.CommandLine.Argument
import PocketCalculator.CommandLine.Level
import PocketCalculator.CommandLine.Request
import PocketCalculator.CommandLine.Usage
import PocketCalculator.Display.Key
import PocketCalculator.Display.ResultText
import PocketCalculator.Display.State
import PocketCalculator.Expression.Evaluation
import PocketCalculator.Expression.Lexer
import PocketCalculator.Expression.Operator
import PocketCalculator.Expression.Token
import PocketCalculator.Invocation
import PocketCalculator.Json.Basic
import PocketCalculator.Json.Form
import PocketCalculator.Json.Number
import PocketCalculator.Json.Printer
import PocketCalculator.Json.Reader
import PocketCalculator.Keypad.Button
import PocketCalculator.Keypad.Grid
import PocketCalculator.Keypad.Keyboard
import PocketCalculator.Main
import PocketCalculator.Number.Arithmetic
import PocketCalculator.Number.Binary64
import PocketCalculator.Number.Layout
import PocketCalculator.Number.Numeral
import PocketCalculator.Number.Rounding
import PocketCalculator.Number.Shortest
import PocketCalculator.Report
import PocketCalculator.Settings
import PocketCalculator.Storage
import PocketCalculator.Text.Blank
import PocketCalculator.Text.Emphasis
import PocketCalculator.Text.Padding
import PocketCalculator.Proofs.Command.Buttons
import PocketCalculator.Proofs.Command.Reports
import PocketCalculator.Proofs.Command.ShownFailure
import PocketCalculator.Proofs.Command.TypedExpression
import PocketCalculator.Proofs.Display.Coherence
import PocketCalculator.Proofs.Display.Continuation
import PocketCalculator.Proofs.Display.Phases
import PocketCalculator.Proofs.Display.RepeatedEquals
import PocketCalculator.Proofs.Display.ResultFlag
import PocketCalculator.Proofs.Display.Typing
import PocketCalculator.Proofs.Display.WholeNumbers
import PocketCalculator.Proofs.Expression.Division
import PocketCalculator.Proofs.Expression.ExponentForm
import PocketCalculator.Proofs.Expression.FixedResults
import PocketCalculator.Proofs.Expression.LeftToRight
import PocketCalculator.Proofs.Expression.Lexeme
import PocketCalculator.Proofs.Expression.ReadBack
import PocketCalculator.Proofs.Expression.WholeNumbers
import PocketCalculator.Proofs.Expression.ZeroSign
import PocketCalculator.Proofs.Number.Decimals
import PocketCalculator.Proofs.Number.ExponentLayout
import PocketCalculator.Proofs.Number.ExponentSums
import PocketCalculator.Proofs.Number.Nearest
import PocketCalculator.Proofs.Number.PlainLayout
import PocketCalculator.Proofs.Number.ResultLetters
import PocketCalculator.Proofs.Number.Signs
import PocketCalculator.Proofs.Number.Spacing
import PocketCalculator.Proofs.Number.Whole
import PocketCalculator.Proofs.Number.WholeText
import PocketCalculator.Proofs.Text.Lines
import PocketCalculator.Proofs.Text.Words
import PocketCalculator.Proofs.Command.Replay
import PocketCalculator.Proofs.Command.Delivery
import PocketCalculator.Proofs.Json.Numbers
import PocketCalculator.Proofs.Json.Strings
import PocketCalculator.Proofs.Json.RoundTrip
import PocketCalculator.Proofs.Command.JsonLines
import PocketCalculator.Proofs.Json.StoredForms
import PocketCalculator.Proofs.Command.Presentation
import PocketCalculator.Proofs.Command.Causality
import PocketCalculator.Proofs.Keypad.Inputs
import PocketCalculator.Proofs.Search
import PocketCalculator.Proofs.Expression.PositionalMeaning
import PocketCalculator.Proofs.Expression.WrittenTokens
import PocketCalculator.Proofs.Number.FewestDigits
import PocketCalculator.Proofs.Number.SignificantDigits
import PocketCalculator.Proofs.Number.CanonicalText
import PocketCalculator.Proofs.Number.FifteenDigits
import PocketCalculator.Proofs.Display.TypedNumerals
import PocketCalculator.Proofs.Number.CorrectRounding
import PocketCalculator.Proofs.Expression.Literals
import PocketCalculator.Proofs.Expression.Unreadable
import PocketCalculator.Proofs.Display.NotANumber
import PocketCalculator.Proofs.Display.TakingBack
import PocketCalculator.Proofs.Command.PressedPrefixes
import PocketCalculator.Proofs.Display.LineBreaks
import PocketCalculator.Proofs.Command.LineCount
import PocketCalculator.Proofs.CommandLine.Levels
import PocketCalculator.Proofs.CommandLine.Items
import PocketCalculator.Proofs.CommandLine.Interleaving
