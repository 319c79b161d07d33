import NodeWarden.Address.Allocator
import NodeWarden.Address.Probe
import NodeWarden.Address.Shared
import NodeWarden.Address.Socket
import NodeWarden.Bridge.Call
import NodeWarden.Bridge.Open
import NodeWarden.Bridge.Settings
import NodeWarden.Config.Basic
import NodeWarden.Config.Document
import NodeWarden.Console.Arguments
import NodeWarden.Console.Run
import NodeWarden.Console.Sheet
import NodeWarden.Daemon.Run
import NodeWarden.Daemon.Startup
import NodeWarden.Error
import NodeWarden.Flow
import NodeWarden.Held
import NodeWarden.Host.Basic
import NodeWarden.Host.Binary
import NodeWarden.Host.Client
import NodeWarden.Host.Clock
import NodeWarden.Host.Console
import NodeWarden.Host.Coordinator
import NodeWarden.Host.Daemon
import NodeWarden.Host.Echo
import NodeWarden.Host.Files
import NodeWarden.Host.Ports
import NodeWarden.Host.Program
import NodeWarden.Host.Rehearsal
import NodeWarden.Host.Requests
import NodeWarden.Host.Shell
import NodeWarden.Host.Trial
import NodeWarden.Json.Basic
import NodeWarden.Json.Number
import NodeWarden.Json.Printer
import NodeWarden.Json.Reader
import NodeWarden.Json.Record
import NodeWarden.Life
import NodeWarden.Log.Filter
import NodeWarden.Log.Lines
import NodeWarden.Log.Record
import NodeWarden.Main
import NodeWarden.Monitor
import NodeWarden.Name
import NodeWarden.Node
import NodeWarden.Plane.Command
import NodeWarden.Plane.Memory
import NodeWarden.Proofs.Abandoned
import NodeWarden.Proofs.Allocator
import NodeWarden.Proofs.Apart
import NodeWarden.Proofs.Asked
import NodeWarden.Proofs.Brokers
import NodeWarden.Proofs.Buildable
import NodeWarden.Proofs.Check
import NodeWarden.Proofs.Close
import NodeWarden.Proofs.Config
import NodeWarden.Proofs.Crash
import NodeWarden.Proofs.Creation
import NodeWarden.Proofs.Daemon
import NodeWarden.Proofs.Deadline
import NodeWarden.Proofs.Details
import NodeWarden.Proofs.DryRun
import NodeWarden.Proofs.Exit
import NodeWarden.Proofs.Flow
import NodeWarden.Proofs.Gone
import NodeWarden.Proofs.Grace
import NodeWarden.Proofs.Held
import NodeWarden.Proofs.Json.Grammar
import NodeWarden.Proofs.Json.Marks
import NodeWarden.Proofs.Json.Members
import NodeWarden.Proofs.Json.Readable
import NodeWarden.Proofs.Json.Reading
import NodeWarden.Proofs.Json.Records
import NodeWarden.Proofs.Json.Writing
import NodeWarden.Proofs.Life
import NodeWarden.Proofs.Lines
import NodeWarden.Proofs.Listener
import NodeWarden.Proofs.Listing
import NodeWarden.Proofs.Literal
import NodeWarden.Proofs.LogLine
import NodeWarden.Proofs.Memory
import NodeWarden.Proofs.Name
import NodeWarden.Proofs.Numeral
import NodeWarden.Proofs.Opened
import NodeWarden.Proofs.Options
import NodeWarden.Proofs.Output
import NodeWarden.Proofs.Reader
import NodeWarden.Proofs.Run
import NodeWarden.Proofs.Socket
import NodeWarden.Proofs.SpecText
import NodeWarden.Proofs.Spellings
import NodeWarden.Proofs.Stages
import NodeWarden.Proofs.Status
import NodeWarden.Proofs.Taken
import NodeWarden.Proofs.Teardown
import NodeWarden.Proofs.Utf8
import NodeWarden.Proofs.Watch
import NodeWarden.Registry
import NodeWarden.Settings
import NodeWarden.Spec.Basic
import NodeWarden.Spec.Check
import NodeWarden.Spec.Document
import NodeWarden.Status.Basic
import NodeWarden.Status.Document
import NodeWarden.Supervisor
import NodeWarden.Surroundings
import NodeWarden.Teardown
import NodeWarden.Text.Ascii
import NodeWarden.Text.Blank
import NodeWarden.Text.Numeral
import NodeWarden.Text.Quoted
import NodeWarden.Text.Split
import NodeWarden.Text.Utf8
import NodeWarden.Text.Width
import NodeWarden.Text.Width.Emoji
import NodeWarden.Text.Width.Letters
import NodeWarden.Text.Width.Ranges
