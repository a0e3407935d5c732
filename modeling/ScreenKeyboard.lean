import ScreenKeyboard.Command
import ScreenKeyboard.Currency
import ScreenKeyboard.Customizer
import ScreenKeyboard.Decimal.Binary64
import ScreenKeyboard.Decimal.Shortest
import ScreenKeyboard.Definition
import ScreenKeyboard.Definition.Check
import ScreenKeyboard.Definition.Format
import ScreenKeyboard.Definition.Lineage
import ScreenKeyboard.Dump
import ScreenKeyboard.Element
import ScreenKeyboard.Fault
import ScreenKeyboard.Files
import ScreenKeyboard.Grid
import ScreenKeyboard.Grid.Check
import ScreenKeyboard.Issue
import ScreenKeyboard.Json.Decode
import ScreenKeyboard.Json.Fault
import ScreenKeyboard.Json.Node
import ScreenKeyboard.Json.Numeral
import ScreenKeyboard.Json.Token
import ScreenKeyboard.Json.Value
import ScreenKeyboard.Key
import ScreenKeyboard.Key.Casing
import ScreenKeyboard.Key.Code
import ScreenKeyboard.Key.Function
import ScreenKeyboard.Keyboard
import ScreenKeyboard.LetterMap
import ScreenKeyboard.Library
import ScreenKeyboard.Library.Resource
import ScreenKeyboard.Locale
import ScreenKeyboard.Main
import ScreenKeyboard.Page
import ScreenKeyboard.Page.Edit
import ScreenKeyboard.Page.Script
import ScreenKeyboard.Proofs.AccentedLetters
import ScreenKeyboard.Proofs.Accents
import ScreenKeyboard.Proofs.Ancestors
import ScreenKeyboard.Proofs.BlankKeys
import ScreenKeyboard.Proofs.ByteOrder
import ScreenKeyboard.Proofs.Capitals
import ScreenKeyboard.Proofs.CheckedDefinition
import ScreenKeyboard.Proofs.CommandLine
import ScreenKeyboard.Proofs.Completion
import ScreenKeyboard.Proofs.Defects
import ScreenKeyboard.Proofs.DefinedLetters
import ScreenKeyboard.Proofs.DottedCapital
import ScreenKeyboard.Proofs.DumpedPage
import ScreenKeyboard.Proofs.Dumps
import ScreenKeyboard.Proofs.EveryKey
import ScreenKeyboard.Proofs.FileNames
import ScreenKeyboard.Proofs.Icons
import ScreenKeyboard.Proofs.KeyEdits
import ScreenKeyboard.Proofs.LabelledKeys
import ScreenKeyboard.Proofs.LettersPage
import ScreenKeyboard.Proofs.LocaleTags
import ScreenKeyboard.Proofs.Oddities
import ScreenKeyboard.Proofs.Placeholders
import ScreenKeyboard.Proofs.PrintedDump
import ScreenKeyboard.Proofs.PrintedNumber
import ScreenKeyboard.Proofs.PrintedText
import ScreenKeyboard.Proofs.Provenance
import ScreenKeyboard.Proofs.ReadBack
import ScreenKeyboard.Proofs.Registered
import ScreenKeyboard.Proofs.Reload
import ScreenKeyboard.Proofs.RepeatedLetters
import ScreenKeyboard.Proofs.ReportOrder
import ScreenKeyboard.Proofs.Resources
import ScreenKeyboard.Proofs.RowByRow
import ScreenKeyboard.Proofs.Settings
import ScreenKeyboard.Proofs.ShiftedPage
import ScreenKeyboard.Proofs.Steps
import ScreenKeyboard.Proofs.StrictReading
import ScreenKeyboard.Proofs.Suggestions
import ScreenKeyboard.Proofs.TagOrder
import ScreenKeyboard.Proofs.UnknownNames
import ScreenKeyboard.Proofs.UsableGrid
import ScreenKeyboard.Proofs.Warnings
import ScreenKeyboard.Proofs.WrittenConfig
import ScreenKeyboard.Proofs.WrittenDefinition
import ScreenKeyboard.Proofs.WrittenText
import ScreenKeyboard.Proofs.WrittenTree
import ScreenKeyboard.Quotes
import ScreenKeyboard.Registry
import ScreenKeyboard.Symbols
import ScreenKeyboard.Text.Blank
import ScreenKeyboard.Text.CaseRun
import ScreenKeyboard.Text.Lower
import ScreenKeyboard.Text.Quoted
import ScreenKeyboard.Text.Similar
import ScreenKeyboard.Text.Upper
