/-
# Sidecar

A supervisor for a language server that runs beside an editor.
-/
import Sidecar.Cli.Arguments
import Sidecar.Cli.Console
import Sidecar.Cli.Program
import Sidecar.Cli.Run
import Sidecar.Client.Basic
import Sidecar.Client.ChannelEnd
import Sidecar.Client.Conversation
import Sidecar.Client.Incoming
import Sidecar.Client.Message
import Sidecar.Config.Basic
import Sidecar.Config.Expansion
import Sidecar.Decimal.Binary64
import Sidecar.Decimal.Layout
import Sidecar.Decimal.Shortest
import Sidecar.Diagnostic
import Sidecar.Domain.Basic
import Sidecar.Domain.Direction
import Sidecar.Domain.Mapping
import Sidecar.Domain.Punycode
import Sidecar.Duration
import Sidecar.Failure
import Sidecar.Failure.Causes
import Sidecar.Frame.Basic
import Sidecar.Frame.Reader
import Sidecar.Frame.Writer
import Sidecar.Host.Basic
import Sidecar.Host.Child
import Sidecar.Host.Files
import Sidecar.Host.Program
import Sidecar.Json.Basic
import Sidecar.Json.Fault
import Sidecar.Json.Parser
import Sidecar.Json.Printer
import Sidecar.Main
import Sidecar.Net.Address
import Sidecar.Path
import Sidecar.Process.Exit
import Sidecar.Process.Output
import Sidecar.Process.Supervisor
import Sidecar.Process.Trial
import Sidecar.Proofs.ActiveLoss
import Sidecar.Proofs.Attendance
import Sidecar.Proofs.Attribution
import Sidecar.Proofs.Cancellation
import Sidecar.Proofs.Capacity
import Sidecar.Proofs.Causes
import Sidecar.Proofs.ChannelLoss
import Sidecar.Proofs.CheckedTransport
import Sidecar.Proofs.Course
import Sidecar.Proofs.Custody
import Sidecar.Proofs.Decoding
import Sidecar.Proofs.Delivery
import Sidecar.Proofs.Dialogue
import Sidecar.Proofs.DialogueRun
import Sidecar.Proofs.DialogueStep
import Sidecar.Proofs.Dismissal
import Sidecar.Proofs.Dispatch
import Sidecar.Proofs.Documents
import Sidecar.Proofs.Effect
import Sidecar.Proofs.EventStream
import Sidecar.Proofs.Exchange
import Sidecar.Proofs.Expansion
import Sidecar.Proofs.FileUri
import Sidecar.Proofs.Forwarding
import Sidecar.Proofs.Framing
import Sidecar.Proofs.Gate
import Sidecar.Proofs.Header
import Sidecar.Proofs.Interference
import Sidecar.Proofs.JsonFloat
import Sidecar.Proofs.JsonObject
import Sidecar.Proofs.JsonScalar
import Sidecar.Proofs.JsonText
import Sidecar.Proofs.Leases
import Sidecar.Proofs.Lifecycle
import Sidecar.Proofs.Payload
import Sidecar.Proofs.Pipe
import Sidecar.Proofs.Polling
import Sidecar.Proofs.Positions
import Sidecar.Proofs.Progress
import Sidecar.Proofs.Provisioning
import Sidecar.Proofs.Punctuality
import Sidecar.Proofs.References
import Sidecar.Proofs.Replies
import Sidecar.Proofs.Residue
import Sidecar.Proofs.Rounding
import Sidecar.Proofs.Routing
import Sidecar.Proofs.Schedule
import Sidecar.Proofs.Script
import Sidecar.Proofs.SessionClock
import Sidecar.Proofs.Signals
import Sidecar.Proofs.Soundness
import Sidecar.Proofs.Stopping
import Sidecar.Proofs.Succession
import Sidecar.Proofs.Supervision
import Sidecar.Proofs.Teardown
import Sidecar.Proofs.Tenancy
import Sidecar.Proofs.Termination
import Sidecar.Proofs.ThreadSafety
import Sidecar.Proofs.Turn
import Sidecar.Proofs.Undecided
import Sidecar.Proofs.Usability
import Sidecar.Proofs.Utf8
import Sidecar.Proofs.Verdict
import Sidecar.Proofs.Writes
import Sidecar.Provision.Basic
import Sidecar.Provision.OnHost
import Sidecar.Rehearsal.Basic
import Sidecar.Rehearsal.Script
import Sidecar.Selector
import Sidecar.Session.Basic
import Sidecar.Session.Manager
import Sidecar.Session.Thread
import Sidecar.Settings
import Sidecar.Shape
import Sidecar.Sink
import Sidecar.Stage
import Sidecar.StandIn
import Sidecar.SystemError
import Sidecar.Text.Ascii
import Sidecar.Text.Blank
import Sidecar.Text.Composition
import Sidecar.Text.Direction
import Sidecar.Text.Joining
import Sidecar.Text.Marks
import Sidecar.Text.Plain
import Sidecar.Text.Quoted
import Sidecar.Text.Spans
import Sidecar.Text.Utf8
import Sidecar.Toml.Basic
import Sidecar.Toml.Draft
import Sidecar.Toml.Parser
import Sidecar.Toml.Quoted
import Sidecar.Toml.Scalar
import Sidecar.Transport.Connect
import Sidecar.Transport.Endpoint
import Sidecar.Transport.Kind
import Sidecar.Transport.Lease
import Sidecar.Transport.Readiness
import Sidecar.Uri.File
import Sidecar.Uri.Host
import Sidecar.Uri.Parser
import Sidecar.Uri.Percent
