import DartComments.Main
import DartComments.Source.Selection
import DartComments.Proofs.Result
import DartComments.Proofs.Text.Cut
import DartComments.Proofs.Text.Blank
import DartComments.Proofs.Text.LineEnding
import DartComments.Proofs.Tree.Heads
import DartComments.Proofs.Source.Offsets
import DartComments.Proofs.Source.Spans
import DartComments.Proofs.Source.Declaration
import DartComments.Proofs.Source.Sequence
import DartComments.Proofs.Tree.Order
import DartComments.Proofs.Comment.Insertion
import DartComments.Proofs.Comment.Placement
import DartComments.Proofs.Comment.Copies
import DartComments.Proofs.Comment.Generation
import DartComments.Proofs.Disk.Path
import DartComments.Proofs.Disk.Canonical
import DartComments.Proofs.Disk.Basic
import DartComments.Proofs.Disk.Write
import DartComments.Proofs.Tree.Ranges
import DartComments.Proofs.Tree.Shape
import DartComments.Proofs.Session
import DartComments.Proofs.Session.Cache
import DartComments.Proofs.Json.Writer
import DartComments.Proofs.Json.Encoding
import DartComments.Proofs.Prompt.Template
import DartComments.Proofs.Prompt.Messages
import DartComments.Proofs.Settings
import DartComments.Proofs.Settings.Tokens
import DartComments.Proofs.Backend.Request
import DartComments.Proofs.Backend.Reply
import DartComments.Proofs.Command.Arguments
import DartComments.Proofs.Command.Course
import DartComments.Proofs.Command.Output
import DartComments.Proofs.Command.Files
import DartComments.Proofs.Command.Consent
import DartComments.Proofs.Command.Failures
import DartComments.Proofs.Run.Told
import DartComments.Proofs.Comment.Twins
import DartComments.Proofs.Command.Twins
import DartComments.Proofs.Command.Progress
import DartComments.Proofs.Command.Secrecy
import DartComments.Proofs.Number.Rounding
import DartComments.Proofs.Number.Shortest
import DartComments.Proofs.Number.Reading
import DartComments.Proofs.Json.Number
import DartComments.Proofs.Json.RoundTrip
import DartComments.Proofs.Json.Depth
import DartComments.Proofs.Backend.Exchange
import DartComments.Proofs.Comment.Supply
import DartComments.Proofs.Tree.Faults
import DartComments.Proofs.Tree.Opening
import DartComments.Proofs.Backend.Classification
