import Microbench.Main
import Microbench.Settings.Json
import Microbench.Proofs.Decimal.Digits
import Microbench.Proofs.Json.RoundTrip
import Microbench.Proofs.Runner.Descriptor
import Microbench.Proofs.Binary64.Nearest
import Microbench.Proofs.Binary64.PlainText
import Microbench.Proofs.Runner.Samples
import Microbench.Proofs.Files.Frame
import Microbench.Proofs.Measurement.Samples
import Microbench.Proofs.Runner.Procedures
import Microbench.Proofs.Runner.Effects
import Microbench.Proofs.Runner.Executions
import Microbench.Proofs.Runner.Isolation
import Microbench.Proofs.Progress.RunIds
import Microbench.Proofs.Progress.Tree
import Microbench.Proofs.Runner.Nesting
import Microbench.Proofs.Progress.Cursor
import Microbench.Proofs.Runner.Hosting
import Microbench.Proofs.Runner.Steps
import Microbench.Proofs.Runner.RunByRun
import Microbench.Proofs.Measurement.Steady
import Microbench.Proofs.Runner.IterationByIteration
import Microbench.Proofs.Progress.Restart
import Microbench.Proofs.Progress.Pieces
import Microbench.Proofs.Runner.Announcement
import Microbench.Proofs.Runner.DescriptorNames
import Microbench.Proofs.Files.Directory
import Microbench.Proofs.Runner.Listing
import Microbench.Proofs.Runner.Checks
import Microbench.Proofs.Runner.InputErrors
import Microbench.Proofs.Files.OnePlace
import Microbench.Proofs.Runner.ResultFiles
import Microbench.Proofs.Runner.Identifiers
import Microbench.Proofs.Parameter.Choices
import Microbench.Proofs.Text.Entries
import Microbench.Proofs.Report.SeparatedValues
import Microbench.Proofs.Progress.Lines
import Microbench.Proofs.Runner.EventLines
import Microbench.Proofs.Text.Numerals
import Microbench.Proofs.Settings.Checks
import Microbench.Proofs.Settings.Literals
import Microbench.Proofs.Settings.Options
import Microbench.Proofs.Runner.Keys
import Microbench.Proofs.Runner.Configuration
import Microbench.Proofs.Runner.Selection
import Microbench.Proofs.Measurement.Phases
import Microbench.Proofs.Measurement.Lifecycle
import Microbench.Proofs.Measurement.Estimation
import Microbench.Proofs.Suite.Conservation
import Microbench.Proofs.Measurement.Flushes
import Microbench.Proofs.Progress.Outcomes
import Microbench.Proofs.Text.Base64
import Microbench.Proofs.Progress.Reading
import Microbench.Proofs.Binary64.NumberTexts
import Microbench.Proofs.Runner.ResultEntries
import Microbench.Proofs.Report.SharedPackage
import Microbench.Proofs.Report.DenseNames
import Microbench.Proofs.Report.Alignment
import Microbench.Proofs.Settings.Offers
import Microbench.Proofs.Statistics.Quantile
import Microbench.Proofs.Binary64.TotalOrder
import Microbench.Proofs.Statistics.Order
import Microbench.Proofs.Json.Grammar
import Microbench.Proofs.Binary64.ShortestTexts
import Microbench.Proofs.Json.Parts
import Microbench.Proofs.Report.JsonRecords
import Microbench.Proofs.Failure.Captures
import Microbench.Proofs.Parameter.Changes
import Microbench.Proofs.Text.Grouping
import Microbench.Proofs.Progress.Classes
