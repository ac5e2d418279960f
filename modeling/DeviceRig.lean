import DeviceRig.Call.Channel
import DeviceRig.Call.Error
import DeviceRig.Call.Packet
import DeviceRig.Call.Payload
import DeviceRig.Call.Reply
import DeviceRig.Call.Settings
import DeviceRig.Call.Table
import DeviceRig.Decimal.Shortest
import DeviceRig.Device.Script
import DeviceRig.Device.Server
import DeviceRig.Device.Service
import DeviceRig.Device.Simulator
import DeviceRig.Exchange.Bytes
import DeviceRig.Exchange.Device
import DeviceRig.Exchange.Failure
import DeviceRig.Exchange.Fields
import DeviceRig.Frame.Basic
import DeviceRig.Frame.Checksum
import DeviceRig.Frame.Decoder
import DeviceRig.Frame.Error
import DeviceRig.Frame.Reader
import DeviceRig.Frame.Writer
import DeviceRig.Json.Convert
import DeviceRig.Json.Cursor
import DeviceRig.Json.Error
import DeviceRig.Json.Nested
import DeviceRig.Json.Printer
import DeviceRig.Json.Record
import DeviceRig.Json.Scalar
import DeviceRig.Json.Skip
import DeviceRig.Json.Tagged
import DeviceRig.Json.Value
import DeviceRig.Link.Address
import DeviceRig.Link.Error
import DeviceRig.Link.Listener
import DeviceRig.Link.Media
import DeviceRig.Link.Serial
import DeviceRig.Link.Streams
import DeviceRig.Log.Level
import DeviceRig.Log.Sink
import DeviceRig.Main
import DeviceRig.Output.Format
import DeviceRig.Output.Table
import DeviceRig.Process.Behaviour
import DeviceRig.Process.External
import DeviceRig.Process.Shell.Arithmetic
import DeviceRig.Process.Shell.Builtin
import DeviceRig.Process.Shell.Child
import DeviceRig.Process.Shell.Condition
import DeviceRig.Process.Shell.Evaluation
import DeviceRig.Process.Shell.Expansion
import DeviceRig.Process.Shell.Field
import DeviceRig.Process.Shell.Grammar
import DeviceRig.Process.Shell.Jobs
import DeviceRig.Process.Shell.Machine
import DeviceRig.Process.Shell.Naming
import DeviceRig.Process.Shell.Pattern
import DeviceRig.Process.Shell.Printing
import DeviceRig.Process.Shell.Program
import DeviceRig.Process.Shell.Reading
import DeviceRig.Process.Shell.Run
import DeviceRig.Process.Signal
import DeviceRig.Process.Status
import DeviceRig.Process.Tool.Basic
import DeviceRig.Process.Tool.Files
import DeviceRig.Process.Tool.Launch
import DeviceRig.Process.Tool.Regex
import DeviceRig.Process.Tool.Search
import DeviceRig.Process.Tool.Table
import DeviceRig.Process.Tool.Text
import DeviceRig.Program.Arguments
import DeviceRig.Program.Basic
import DeviceRig.Program.Commands
import DeviceRig.Program.Exit
import DeviceRig.Program.Invocation
import DeviceRig.Program.LogWatch
import DeviceRig.Program.Options
import DeviceRig.Proofs.Call.Consistency
import DeviceRig.Proofs.Call.Correlation
import DeviceRig.Proofs.Call.Interleaving
import DeviceRig.Proofs.Call.Mailbox
import DeviceRig.Proofs.Call.PacketCodec
import DeviceRig.Proofs.Call.PacketRoundTrip
import DeviceRig.Proofs.Device.Answering
import DeviceRig.Proofs.Device.Conversation
import DeviceRig.Proofs.Device.Lighting
import DeviceRig.Proofs.Device.RemoteCalls
import DeviceRig.Proofs.Device.Serving
import DeviceRig.Proofs.Device.SideBySide
import DeviceRig.Proofs.Frame.Buffering
import DeviceRig.Proofs.Frame.Checksum
import DeviceRig.Proofs.Frame.Corruption
import DeviceRig.Proofs.Frame.Delivery
import DeviceRig.Proofs.Frame.Reading
import DeviceRig.Proofs.Frame.Remainder
import DeviceRig.Proofs.Frame.Resynchronisation
import DeviceRig.Proofs.Frame.Stream
import DeviceRig.Proofs.Frame.Stuffing
import DeviceRig.Proofs.Frame.Writing
import DeviceRig.Proofs.Json.Integers
import DeviceRig.Proofs.Json.Members
import DeviceRig.Proofs.Json.Nesting
import DeviceRig.Proofs.Json.OneLine
import DeviceRig.Proofs.Json.Reading
import DeviceRig.Proofs.Json.Records
import DeviceRig.Proofs.Json.Tagged
import DeviceRig.Proofs.Json.Texts
import DeviceRig.Proofs.Json.Values
import DeviceRig.Proofs.Log.Sharing
import DeviceRig.Proofs.Task.Escalation
import DeviceRig.Proofs.Task.Forwarding
import DeviceRig.Proofs.Task.Gathering
import DeviceRig.Proofs.Task.InPlace
import DeviceRig.Proofs.Task.Reconciliation
import DeviceRig.Proofs.Task.ReportCodec
import DeviceRig.Proofs.Task.ReportLines
import DeviceRig.Proofs.Task.Reporting
import DeviceRig.Proofs.Task.Rounds
import DeviceRig.Proofs.Task.SpecCodec
import DeviceRig.Proofs.Text.Lines
import DeviceRig.Proofs.Text.Numerals
import DeviceRig.Proofs.Text.Trimming
import DeviceRig.Proofs.Text.Utf8
import DeviceRig.Proofs.Transport.Bench
import DeviceRig.Proofs.Transport.DeviceLine
import DeviceRig.Proofs.Transport.Dispatching
import DeviceRig.Proofs.Transport.Lifecycle
import DeviceRig.Proofs.Transport.Operations
import DeviceRig.Proofs.Transport.Receiving
import DeviceRig.Proofs.Transport.Worker
import DeviceRig.Rig.Basic
import DeviceRig.Rig.Session
import DeviceRig.Rig.Station
import DeviceRig.Session.Basic
import DeviceRig.System.Directory
import DeviceRig.System.Duration
import DeviceRig.System.Fault
import DeviceRig.System.FileTree
import DeviceRig.Task.Builtin
import DeviceRig.Task.Drill
import DeviceRig.Task.Error
import DeviceRig.Task.Executor
import DeviceRig.Task.Failure
import DeviceRig.Task.Outcome
import DeviceRig.Task.Registry
import DeviceRig.Task.Report
import DeviceRig.Task.Run
import DeviceRig.Task.Spec
import DeviceRig.Task.Stream
import DeviceRig.Task.Supervision
import DeviceRig.Task.Worker
import DeviceRig.Text.Blank
import DeviceRig.Text.Emoji
import DeviceRig.Text.Ligature
import DeviceRig.Text.Lines
import DeviceRig.Text.Natural
import DeviceRig.Text.Quoted
import DeviceRig.Text.Unseen
import DeviceRig.Text.Utf8
import DeviceRig.Text.Width
import DeviceRig.Transport.Basic
import DeviceRig.Transport.Bench
import DeviceRig.Transport.Dispatch
import DeviceRig.Transport.Error
import DeviceRig.Transport.Settings
import DeviceRig.Transport.Worker
import DeviceRig.Proofs.System.Walking
import DeviceRig.Proofs.Link.Addresses
import DeviceRig.Proofs.Link.Binding
import DeviceRig.Proofs.Link.Listening
import DeviceRig.Proofs.Link.Ownership
import DeviceRig.Proofs.Log.Watching
import DeviceRig.Proofs.Session.Holding
import DeviceRig.Proofs.Transport.SpawnedThreads
import DeviceRig.Proofs.Call.Numbering
import DeviceRig.Proofs.Log.Agreement
import DeviceRig.Proofs.Program.Keywords
import DeviceRig.Proofs.Device.LightLevel
