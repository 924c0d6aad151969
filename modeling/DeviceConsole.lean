import DeviceConsole.Text.WhiteSpace
import DeviceConsole.Text.Alphanumeric
import DeviceConsole.Text.LowerCase
import DeviceConsole.Text.Quoted
import DeviceConsole.Text.Decimal
import DeviceConsole.Net.IpAddress
import DeviceConsole.Device.Endpoint
import DeviceConsole.Device.Name
import DeviceConsole.Json.Reader
import DeviceConsole.Device.Record
import DeviceConsole.Grammar.Commands
import DeviceConsole.Device.PropertyTable
import DeviceConsole.Command
import DeviceConsole.Error
import DeviceConsole.Command.Builder
import DeviceConsole.Router
import DeviceConsole.Dispatcher.Turns
import DeviceConsole.Format.Formatter
import DeviceConsole.Editor.Completion
import DeviceConsole.Editor.Hint
import DeviceConsole.Editor.Prompt
import DeviceConsole.Session
import DeviceConsole.Settings.Network
import DeviceConsole.Settings.Files
import DeviceConsole.CommandLine.Run
import DeviceConsole.Main
import DeviceConsole.Proofs.Net.Dotted
import DeviceConsole.Proofs.Grammar.Marks
import DeviceConsole.Proofs.Grammar.Takes
import DeviceConsole.Proofs.Grammar.Typed
import DeviceConsole.Proofs.Grammar.Lines
import DeviceConsole.Proofs.Command.Written
import DeviceConsole.Proofs.Command.ReadBack
import DeviceConsole.Proofs.Command.Listing
import DeviceConsole.Proofs.Command.Agreement
import DeviceConsole.Proofs.Backend.Changes
import DeviceConsole.Proofs.Device.Properties
import DeviceConsole.Proofs.Router
import DeviceConsole.Proofs.Reasons
import DeviceConsole.Proofs.Backend.Sound
import DeviceConsole.Proofs.Reachable
import DeviceConsole.Proofs.Backend.Coherent
import DeviceConsole.Proofs.Rows
import DeviceConsole.Proofs.Footprint
import DeviceConsole.Proofs.Failures
import DeviceConsole.Proofs.Members
import DeviceConsole.Proofs.Names
import DeviceConsole.Proofs.Grammar.Diagnostics
import DeviceConsole.Proofs.Dispatcher.Protocol
import DeviceConsole.Proofs.Dispatcher.Barrier
import DeviceConsole.Proofs.Grammar.Wording
import DeviceConsole.Proofs.Grammar.Spacing
import DeviceConsole.Proofs.Command.Respaced
import DeviceConsole.Proofs.Command.Shown
import DeviceConsole.Proofs.Settings.Startup
import DeviceConsole.Proofs.Editor.Completion
import DeviceConsole.Proofs.Editor.Offers
import DeviceConsole.Proofs.Printed
import DeviceConsole.Proofs.Echo
import DeviceConsole.Proofs.Partition
import DeviceConsole.Proofs.Dispatcher.Forward
import DeviceConsole.Proofs.Dispatcher.Serial
import DeviceConsole.Proofs.Batch
import DeviceConsole.Proofs.Settings.Saved
import DeviceConsole.Proofs.Grammar.Tokenization
import DeviceConsole.Proofs.Grammar.Openings
import DeviceConsole.Proofs.Selection
import DeviceConsole.Proofs.Net.Unique
import DeviceConsole.Proofs.Format.Facts
import DeviceConsole.Proofs.Format.Texts
import DeviceConsole.Proofs.Format.Agreement
import DeviceConsole.Proofs.LastWrite
import DeviceConsole.Proofs.Readings
import DeviceConsole.Proofs.Refreshes
import DeviceConsole.Proofs.Groups
import DeviceConsole.Proofs.Text.LowerCase
import DeviceConsole.Proofs.Grammar.Origins
import DeviceConsole.Proofs.Editor.Cursor
import DeviceConsole.Proofs.Editor.Prefixes
import DeviceConsole.Proofs.Editor.Hints
import DeviceConsole.Proofs.Net.ReadBack
import DeviceConsole.Proofs.Json.ReadBack
import DeviceConsole.Proofs.Device.Texts
import DeviceConsole.Proofs.Grammar.Traversal
import DeviceConsole.Proofs.Grammar.Runs
import DeviceConsole.Proofs.Grammar.Waits
import DeviceConsole.Proofs.Cached
import DeviceConsole.Proofs.Text.Calendar
