import TypeReport.Backtrace.Level
import TypeReport.Json.Reader
import TypeReport.Main
import TypeReport.Position.LineTable
import TypeReport.Proofs.Diagnostic.Printer
import TypeReport.Proofs.Report.Array
import TypeReport.Proofs.Run.Policies
import TypeReport.Report.Unmarked
import TypeReport.Proofs.Backtrace.Marks
import TypeReport.Proofs.Diagnostic.Parts
import TypeReport.Proofs.Diagnostic.Spans
import TypeReport.Proofs.Panel.Layout
import TypeReport.Report.Strings
import TypeReport.Proofs.Panel.Characters
import TypeReport.Proofs.Report.Unpaint
import TypeReport.Panel.Screen
import TypeReport.Proofs.Panel.Screen
import TypeReport.Proofs.Covered
import TypeReport.Proofs.Rows
import TypeReport.Proofs.Panel.Emphasis
import TypeReport.Proofs.Diagnostic.Characters
import TypeReport.Proofs.Diagnostic.Emphasis
import TypeReport.Proofs.Text.Phrases
import TypeReport.Proofs.Backtrace.Levels
import TypeReport.Proofs.Diagnostic.Mismatch
import TypeReport.Proofs.Run.Protocol
import TypeReport.Proofs.Run.Concatenation
import TypeReport.Proofs.Text.LineEnds
import TypeReport.Proofs.Text.LineFeeds
import TypeReport.Proofs.Diagnostic.Echoes
import TypeReport.Proofs.Diagnostic.Carets
import TypeReport.Proofs.Run.LineEnds
import TypeReport.Proofs.Checked.Operations
import TypeReport.Proofs.Checked.Position
import TypeReport.Proofs.Checked.Backtrace
import TypeReport.Proofs.Checked.Rounds
import TypeReport.Proofs.Checked.Block
import TypeReport.Proofs.Checked.Diagnostic
import TypeReport.Proofs.Checked.Lines
import TypeReport.Proofs.Checked.Panel
import TypeReport.Proofs.Checked.Run
import TypeReport.Proofs.Backtrace.Boundaries
import TypeReport.Proofs.Backtrace.Chunks
import TypeReport.Proofs.Run.Skips
import TypeReport.Proofs.Run.Paths
import TypeReport.Proofs.Command.Answer
import TypeReport.Proofs.Position.Scan
import TypeReport.Proofs.Backtrace.Bindings
import TypeReport.Proofs.Path
import TypeReport.Proofs.Report.Reuse
import TypeReport.Proofs.Diagnostic.Gist
import TypeReport.Proofs.Panel.Source
import TypeReport.Proofs.Panel.Columns
import TypeReport.Proofs.Position.Ranges
import TypeReport.Proofs.Position.Order
import TypeReport.Proofs.Command.Request
