import Logbook.Archive
import Logbook.Calendar
import Logbook.Catalog
import Logbook.Command
import Logbook.Command.Arguments
import Logbook.Criteria
import Logbook.Disk
import Logbook.Disk.Tree
import Logbook.Distinct
import Logbook.Entry
import Logbook.Entry.Line
import Logbook.Event
import Logbook.Folder
import Logbook.Instant
import Logbook.Instant.Spelling
import Logbook.Intake
import Logbook.Main
import Logbook.Path
import Logbook.Proofs.Archive.FirstTimes
import Logbook.Proofs.Archive.Merging
import Logbook.Proofs.Archive.Pivots
import Logbook.Proofs.Archive.Reordering
import Logbook.Proofs.Archive.Selection
import Logbook.Proofs.Archive.Tallies
import Logbook.Proofs.Archive.TaskBookkeeping
import Logbook.Proofs.Archive.Views
import Logbook.Proofs.Disk.TreeFolder
import Logbook.Proofs.Entry.LineGrammar
import Logbook.Proofs.Entry.LineRoundTrip
import Logbook.Proofs.Entry.Reading
import Logbook.Proofs.Entry.TaskFields
import Logbook.Proofs.Entry.TaskTexts
import Logbook.Proofs.Folder.Discovery
import Logbook.Proofs.Folder.Loading
import Logbook.Proofs.Instant.Chronology
import Logbook.Proofs.Instant.Numbers
import Logbook.Proofs.Instant.ReadBack
import Logbook.Proofs.Instant.Spellings
import Logbook.Proofs.Intake.Accounting
import Logbook.Proofs.Intake.Contents
import Logbook.Proofs.Intake.LineByLine
import Logbook.Proofs.Intake.LineLimits
import Logbook.Proofs.Intake.Policies
import Logbook.Proofs.Intake.Reloading
import Logbook.Proofs.Intake.Repairing
import Logbook.Proofs.Intake.Segmentation
import Logbook.Proofs.Intake.Sessions
import Logbook.Proofs.Intake.SourceOrder
import Logbook.Proofs.Query.CatalogAgreement
import Logbook.Proofs.Query.Culprit
import Logbook.Proofs.Query.Grammar
import Logbook.Proofs.Query.Layout
import Logbook.Proofs.Query.Lexing
import Logbook.Proofs.Query.Quotes
import Logbook.Proofs.Query.SetSemantics
import Logbook.Proofs.Query.Spelling
import Logbook.Proofs.Query.Stages
import Logbook.Proofs.Query.Tiling
import Logbook.Proofs.Query.TimeLiterals
import Logbook.Proofs.Query.Viability
import Logbook.Proofs.Report.PlainLines
import Logbook.Proofs.Source.LineEnds
import Logbook.Proofs.Source.Scanning
import Logbook.Proofs.Source.TerminatedLines
import Logbook.Proofs.Text.Integers
import Logbook.Proofs.Text.LetterCase
import Logbook.Proofs.Text.Occurrences
import Logbook.Proofs.Text.Splitting
import Logbook.Proofs.Text.Utf8RoundTrip
import Logbook.Proofs.Text.Utf8Subparts
import Logbook.Query
import Logbook.Query.Answer
import Logbook.Query.Error
import Logbook.Query.Parse
import Logbook.Query.Token
import Logbook.Ranked
import Logbook.Report
import Logbook.Report.Json
import Logbook.Settings
import Logbook.Settings.Document
import Logbook.Settings.Override
import Logbook.Source
import Logbook.Status
import Logbook.Summary
import Logbook.Tally
import Logbook.Text.Blank
import Logbook.Text.CaseIgnorable
import Logbook.Text.CaseRun
import Logbook.Text.Cased
import Logbook.Text.CodeRange
import Logbook.Text.Decimal
import Logbook.Text.LowerCase
import Logbook.Text.Occurrence
import Logbook.Text.Quoted
import Logbook.Text.Reading
import Logbook.Text.Unprintable
import Logbook.Text.Utf8
import Logbook.Toml.Document
import Logbook.Toml.Scalar
import Logbook.Toml.Token
import Logbook.Toml.Value
import Logbook.Window
