import SourceDiagnostics.CommandLine
import SourceDiagnostics.CommandLine.Help
import SourceDiagnostics.CommandLine.Options
import SourceDiagnostics.CommandLine.Outcome
import SourceDiagnostics.CommandLine.Request
import SourceDiagnostics.Decimal
import SourceDiagnostics.Description
import SourceDiagnostics.Diagnostic
import SourceDiagnostics.Excerpt
import SourceDiagnostics.Failure
import SourceDiagnostics.Failure.Foreign
import SourceDiagnostics.Failure.Session
import SourceDiagnostics.Failure.Store
import SourceDiagnostics.FileTree
import SourceDiagnostics.LanguageServer
import SourceDiagnostics.LanguageServer.Uri
import SourceDiagnostics.Main
import SourceDiagnostics.Path
import SourceDiagnostics.Place
import SourceDiagnostics.Settings
import SourceDiagnostics.Source
import SourceDiagnostics.Style
import SourceDiagnostics.SystemFault
import SourceDiagnostics.Text
import SourceDiagnostics.Text.ControlSequence
import SourceDiagnostics.Text.Numeral
import SourceDiagnostics.Text.Quoted
import SourceDiagnostics.Text.Utf8
import SourceDiagnostics.Toml.Blank
import SourceDiagnostics.Toml.Calendar
import SourceDiagnostics.Toml.Document
import SourceDiagnostics.Toml.Key
import SourceDiagnostics.Toml.Moment
import SourceDiagnostics.Toml.Number
import SourceDiagnostics.Toml.Quotation
import SourceDiagnostics.Toml.Table
import SourceDiagnostics.Toml.Value
import SourceDiagnostics.Workspace
import SourceDiagnostics.Proofs.Excerpt.Line
import SourceDiagnostics.Proofs.Excerpt.Point
import SourceDiagnostics.Proofs.Excerpt.Range
import SourceDiagnostics.Proofs.Excerpt.Agreement
import SourceDiagnostics.Proofs.Text.LineEnds
import SourceDiagnostics.Proofs.Excerpt.LineEnds
import SourceDiagnostics.Proofs.Diagnostic.LineEnds
import SourceDiagnostics.Failure.Step
import SourceDiagnostics.Proofs.Failure.Store
import SourceDiagnostics.Proofs.Failure.Step
import SourceDiagnostics.Proofs.Failure.History
import SourceDiagnostics.Proofs.Text.ControlSequence
import SourceDiagnostics.Proofs.Diagnostic.Color
import SourceDiagnostics.Proofs.CommandLine.Message
import SourceDiagnostics.Proofs.Position.Coordinates
import SourceDiagnostics.Proofs.CommandLine.Outcome
import SourceDiagnostics.Proofs.CommandLine.Preview
import SourceDiagnostics.Proofs.Position.Location
import SourceDiagnostics.Proofs.Diagnostic.Lines
import SourceDiagnostics.Proofs.Failure.Remarks
import SourceDiagnostics.Proofs.CommandLine.Directory
import SourceDiagnostics.Proofs.Diagnostic.Content
import SourceDiagnostics.Proofs.Diagnostic.Terminal
import SourceDiagnostics.Proofs.Excerpt.Surroundings
import SourceDiagnostics.Proofs.LanguageServer.Message
import SourceDiagnostics.Proofs.Text.Utf8
import SourceDiagnostics.Proofs.Toml.Value
import SourceDiagnostics.Proofs.Toml.Document
import SourceDiagnostics.Proofs.Path.Resolution
import SourceDiagnostics.Proofs.FileTree
import SourceDiagnostics.Proofs.Position.Display
import SourceDiagnostics.Proofs.LanguageServer.Range
import SourceDiagnostics.Proofs.Settings.Discovery
import SourceDiagnostics.Proofs.Settings.Document
import SourceDiagnostics.Proofs.CommandLine.Discovery
import SourceDiagnostics.Proofs.Excerpt.LineNumber
import SourceDiagnostics.Proofs.LanguageServer.Address
