import Formulary.Assignment
import Formulary.Calculation
import Formulary.Calendar
import Formulary.Catalog
import Formulary.Catalog.Elementary
import Formulary.CommandLine.Command
import Formulary.CommandLine.Help
import Formulary.CommandLine.Options
import Formulary.CommandLine.Outcome
import Formulary.Config
import Formulary.Datum
import Formulary.Datum.Number
import Formulary.Datum.Shown
import Formulary.Decimal.Binary64
import Formulary.Decimal.FieldInteger
import Formulary.Decimal.Numeral
import Formulary.Decimal.Power
import Formulary.Decimal.Shortest
import Formulary.DocumentReader
import Formulary.Evaluation
import Formulary.Event
import Formulary.Fault
import Formulary.FieldFault
import Formulary.FileTree
import Formulary.Journal
import Formulary.Json.Parser
import Formulary.Json.Printer
import Formulary.Main
import Formulary.Markup
import Formulary.Project
import Formulary.Project.Scaffold
import Formulary.Proofs.AbsentResults
import Formulary.Proofs.AppliedOperators
import Formulary.Proofs.CalculationOutcome
import Formulary.Proofs.CalculationRecord
import Formulary.Proofs.CallNesting
import Formulary.Proofs.Calls
import Formulary.Proofs.CatalogConfigs
import Formulary.Proofs.ConfigNames
import Formulary.Proofs.CopiedMarkup
import Formulary.Proofs.DecimalReading
import Formulary.Proofs.DisplayMarkup
import Formulary.Proofs.EvaluationRuns
import Formulary.Proofs.EvaluationSteps
import Formulary.Proofs.EventListing
import Formulary.Proofs.EventRecord
import Formulary.Proofs.Expression
import Formulary.Proofs.ExpressionCalculation
import Formulary.Proofs.ExpressionText
import Formulary.Proofs.ExpressionValue
import Formulary.Proofs.FileChanges
import Formulary.Proofs.FormulaSearch
import Formulary.Proofs.ImplicitProducts
import Formulary.Proofs.JournalOptions
import Formulary.Proofs.JournalReading
import Formulary.Proofs.JournalRouting
import Formulary.Proofs.JournalSearch
import Formulary.Proofs.JournalText
import Formulary.Proofs.JournalWindow
import Formulary.Proofs.JsonNumber
import Formulary.Proofs.JsonReading
import Formulary.Proofs.JsonString
import Formulary.Proofs.JsonText
import Formulary.Proofs.Layout
import Formulary.Proofs.MatchOrder
import Formulary.Proofs.NumeralReading
import Formulary.Proofs.Outcomes
import Formulary.Proofs.Parentheses
import Formulary.Proofs.PrecedenceOrder
import Formulary.Proofs.PreparedEvents
import Formulary.Proofs.Presets
import Formulary.Proofs.ProjectOptions
import Formulary.Proofs.Registrations
import Formulary.Proofs.RootedTrees
import Formulary.Proofs.Rounding
import Formulary.Proofs.SanitizedContext
import Formulary.Proofs.Scaffolding
import Formulary.Proofs.ScanConservation
import Formulary.Proofs.ScanNeighbours
import Formulary.Proofs.ScanRejoined
import Formulary.Proofs.ScanRules
import Formulary.Proofs.ScanSeparators
import Formulary.Proofs.ScanTokens
import Formulary.Proofs.Selection
import Formulary.Proofs.SessionRuns
import Formulary.Proofs.SettingsFaults
import Formulary.Proofs.ShellRuns
import Formulary.Proofs.ShortestDecimal
import Formulary.Proofs.StrictContext
import Formulary.Proofs.Tables
import Formulary.Proofs.TokenShapes
import Formulary.Proofs.Variables
import Formulary.Proofs.WarningRuns
import Formulary.Session
import Formulary.Stamp
import Formulary.Table
import Formulary.Text.Alphanumeric
import Formulary.Text.Blank
import Formulary.Text.ControlSequence
import Formulary.Text.Digit
import Formulary.Text.Lines
import Formulary.Text.Printable
import Formulary.Text.Quoted
import Formulary.Text.Ranges
import Formulary.Text.Resemblance
import Formulary.Text.Surrogates
import Formulary.Text.Upper
import Formulary.Token
import Formulary.Token.Scan
import Formulary.Yaml.Cursor
import Formulary.Yaml.Document
import Formulary.Yaml.Node
import Formulary.Yaml.Resolution
import Formulary.Yaml.Scalar
import Formulary.Yaml.Timestamp
import Formulary.Yaml.Token
