import SlideConverter.Main
import SlideConverter.Json.Reader
import SlideConverter.Rehearsal.World
import SlideConverter.Proofs.Text.Utf8
import SlideConverter.Proofs.Text.Decimal
import SlideConverter.Proofs.Data.Schema
import SlideConverter.Proofs.Data.Sorted
import SlideConverter.Proofs.Json.Number
import SlideConverter.Proofs.Json.Reader
import SlideConverter.Proofs.Json.Lossless
import SlideConverter.Proofs.Toml.Quotation
import SlideConverter.Proofs.Toml.Scalar
import SlideConverter.Proofs.Toml.Document
import SlideConverter.Proofs.Config.Form
import SlideConverter.Proofs.Config.Text
import SlideConverter.Proofs.FileTree.Node
import SlideConverter.Proofs.FileTree.Walk
import SlideConverter.Proofs.FileTree.Change
import SlideConverter.Proofs.FileTree.Reply
import SlideConverter.Proofs.Tool.Form
import SlideConverter.Proofs.Tool.Invocation
import SlideConverter.Proofs.Tool.Killing
import SlideConverter.Proofs.Slide.Form
import SlideConverter.Proofs.Slide.Order
import SlideConverter.Proofs.Slide.Cut
import SlideConverter.Proofs.Slide.Numbering
import SlideConverter.Proofs.Slide.Numeral
import SlideConverter.Proofs.Conversion.Form
import SlideConverter.Proofs.Conversion.History
import SlideConverter.Proofs.Conversion.Move
import SlideConverter.Proofs.Conversion.Conduct
import SlideConverter.Proofs.Conversion.Coherence
import SlideConverter.Proofs.Conversion.ToolLife
import SlideConverter.Proofs.Conversion.Mishap
import SlideConverter.Proofs.Conversion.Cleanup
import SlideConverter.Proofs.Conversion.Preservation
import SlideConverter.Proofs.Conversion.Finality
import SlideConverter.Proofs.Conversion.ToolOrder
import SlideConverter.Proofs.Conversion.Refusal
import SlideConverter.Proofs.Conversion.Undoing
import SlideConverter.Proofs.Conversion.Deadline
import SlideConverter.Proofs.Conversion.Misuse
import SlideConverter.Proofs.Conversion.Progress
import SlideConverter.Proofs.Conversion.Sharing
import SlideConverter.Proofs.Conversion.ListingOrder
import SlideConverter.Proofs.Conversion.Look
import SlideConverter.Proofs.Conversion.Reporting
import SlideConverter.Proofs.Conversion.Intermediate
import SlideConverter.Proofs.Conversion.Discarding
import SlideConverter.Proofs.CommandLine.Session
import SlideConverter.Proofs.CommandLine.Summary
import SlideConverter.Proofs.CommandLine.Conversion
import SlideConverter.Proofs.CommandLine.ExitCode
import SlideConverter.Proofs.CommandLine.Unprintable
import SlideConverter.Proofs.CommandLine.Route
import SlideConverter.Proofs.CommandLine.Desk
import SlideConverter.Proofs.CommandLine.Rejection
import SlideConverter.Proofs.CommandLine.DefaultLog
