import Montage.Address
import Montage.Command
import Montage.Console.Report
import Montage.Console.Request
import Montage.Console.Session
import Montage.Console.Switch
import Montage.Failure
import Montage.Fault
import Montage.File.Disk
import Montage.File.Path
import Montage.Filter.Caption
import Montage.Filter.Color
import Montage.Filter.Frame
import Montage.Filter.Graph
import Montage.Job.Desk
import Montage.Job.Status
import Montage.Job.Submission
import Montage.Job.Task
import Montage.Job.Worker
import Montage.Main
import Montage.Manifest.Composition
import Montage.Manifest.Dressing
import Montage.Manifest.Reading
import Montage.Manifest.Validation
import Montage.MediaType
import Montage.Named
import Montage.Number.Binary64
import Montage.Number.Decimal
import Montage.Number.Quantity
import Montage.Number.Reading
import Montage.Number.Rounding
import Montage.PathVariable
import Montage.Plan
import Montage.Probe
import Montage.Proofs.Arguments
import Montage.Proofs.Combination
import Montage.Proofs.Command
import Montage.Proofs.File.Beside
import Montage.Proofs.File.Disk
import Montage.Proofs.File.Extended
import Montage.Proofs.File.Found
import Montage.Proofs.File.Furnished
import Montage.Proofs.File.Guarded
import Montage.Proofs.File.Owned
import Montage.Proofs.File.Path
import Montage.Proofs.File.Restored
import Montage.Proofs.File.Temporary
import Montage.Proofs.File.Undisturbed
import Montage.Proofs.Filter.Caption
import Montage.Proofs.Filter.Chain
import Montage.Proofs.Filter.Escaping
import Montage.Proofs.Filter.Quoting
import Montage.Proofs.Filter.Wiring
import Montage.Proofs.Job.Accounting
import Montage.Proofs.Job.Commission
import Montage.Proofs.Job.Copies
import Montage.Proofs.Job.Discreet
import Montage.Proofs.Job.Fulfilled
import Montage.Proofs.Job.Hall
import Montage.Proofs.Job.Inputs
import Montage.Proofs.Job.Intake
import Montage.Proofs.Job.Lawful
import Montage.Proofs.Job.Malformed
import Montage.Proofs.Job.Operation
import Montage.Proofs.Job.Run
import Montage.Proofs.Job.Setback
import Montage.Proofs.Job.Steps
import Montage.Proofs.Job.Stock
import Montage.Proofs.Job.Verdict
import Montage.Proofs.Job.Waiting
import Montage.Proofs.Job.Worker
import Montage.Proofs.Manifest.AssetArguments
import Montage.Proofs.Manifest.Dressing
import Montage.Proofs.Manifest.Drift
import Montage.Proofs.Manifest.Essence
import Montage.Proofs.Manifest.Failures
import Montage.Proofs.Manifest.Finite
import Montage.Proofs.Manifest.Normal
import Montage.Proofs.Manifest.Offsets
import Montage.Proofs.Manifest.Overlaps
import Montage.Proofs.Manifest.Overrides
import Montage.Proofs.Manifest.Parts
import Montage.Proofs.Manifest.Planned
import Montage.Proofs.Manifest.Probing
import Montage.Proofs.Manifest.Progress
import Montage.Proofs.Manifest.Reading
import Montage.Proofs.Manifest.Screening
import Montage.Proofs.Manifest.Sound
import Montage.Proofs.Manifest.Timeline
import Montage.Proofs.Manifest.Validation
import Montage.Proofs.Manifest.Wire
import Montage.Proofs.Named
import Montage.Proofs.Number.Closest
import Montage.Proofs.Number.Decimal
import Montage.Proofs.Number.Exact
import Montage.Proofs.Number.FixedPoint
import Montage.Proofs.Number.Nearest
import Montage.Proofs.Number.Numeral
import Montage.Proofs.Number.Overflow
import Montage.Proofs.Number.Range
import Montage.Proofs.Number.Rational
import Montage.Proofs.Number.Rounding
import Montage.Proofs.Outcome
import Montage.Proofs.PathVariable
import Montage.Proofs.Precision
import Montage.Proofs.Probe.Answer
import Montage.Proofs.Probe.Duration
import Montage.Proofs.Publication.Directory
import Montage.Proofs.Publication.Schedule
import Montage.Proofs.Publication.Settings
import Montage.Proofs.Publication.Tags
import Montage.Proofs.Renderer
import Montage.Proofs.Renderer.Failures
import Montage.Proofs.StillLength
import Montage.Proofs.Text.Trim
import Montage.Proofs.Time.Calendar
import Montage.Proofs.Time.Instant
import Montage.Proofs.Trace
import Montage.Publication.Directory
import Montage.Publication.Notice
import Montage.Publication.Options
import Montage.Publication.Publisher
import Montage.Publication.Rehearsal
import Montage.Renderer
import Montage.Scene
import Montage.Shell.Program
import Montage.Shell.Run
import Montage.Shell.Script
import Montage.Text.Blank
import Montage.Text.Digit
import Montage.Text.Letter
import Montage.Text.Printable
import Montage.Text.Quoted
import Montage.Text.Search
import Montage.Text.Utf8
import Montage.Text.Word
import Montage.Time.Date
import Montage.Time.Instant
import Montage.Tool.Basic
import Montage.Tool.Preflight
import Montage.Tool.Process
import Montage.Tool.Rehearsal
import Montage.Upload
import Montage.Value
import Montage.Workspace
import Montage.Yaml.Character
import Montage.Yaml.Document
import Montage.Yaml.Node
import Montage.Yaml.Printer
import Montage.Yaml.Scalar
import Montage.Yaml.Tag
import Montage.Yaml.Timestamp
import Montage.Yaml.Token
import Montage.Yaml.Token.Block
import Montage.Yaml.Token.Lexer
import Montage.Yaml.Token.Plain
import Montage.Yaml.Token.Property
import Montage.Yaml.Token.Quoted
