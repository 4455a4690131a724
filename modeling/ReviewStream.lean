import ReviewStream.Binary64.Basic
import ReviewStream.Binary64.Shortest
import ReviewStream.Cli.Help
import ReviewStream.Cli.Report
import ReviewStream.Cli.Request
import ReviewStream.Cli.Stream
import ReviewStream.Clock.Calendar
import ReviewStream.Clock.TimeOfDay
import ReviewStream.Command.Query
import ReviewStream.Command.Review
import ReviewStream.Command.Runner
import ReviewStream.Config.Basic
import ReviewStream.Config.File
import ReviewStream.Config.Saving
import ReviewStream.Config.Record
import ReviewStream.Connection.Basic
import ReviewStream.Connection.Rehearsal
import ReviewStream.Connection.State
import ReviewStream.Connection.Task
import ReviewStream.Dispatch.Basic
import ReviewStream.Dispatch.Work
import ReviewStream.Error
import ReviewStream.Event.Basic
import ReviewStream.Event.Decode
import ReviewStream.Event.Record
import ReviewStream.Json.Basic
import ReviewStream.Json.Fields
import ReviewStream.Json.Reader
import ReviewStream.Json.Writer
import ReviewStream.LineBuffer.Basic
import ReviewStream.LineBuffer.Source
import ReviewStream.Listener.Registry
import ReviewStream.Listener.Round
import ReviewStream.Listener.Set
import ReviewStream.Main
import ReviewStream.Pool.Await
import ReviewStream.Pool.Basic
import ReviewStream.Pool.Resizing
import ReviewStream.Pool.Rest
import ReviewStream.Pool.Threads
import ReviewStream.Ssh.Arguments
import ReviewStream.Ssh.AskPass
import ReviewStream.Ssh.Process
import ReviewStream.Ssh.Proxy
import ReviewStream.Ssh.Session
import ReviewStream.Text.Blank
import ReviewStream.Text.Integer
import ReviewStream.Text.Pieces
import ReviewStream.Text.Utf8
import ReviewStream.Text.Visible
import ReviewStream.Toml.Basic
import ReviewStream.Toml.Reader
import ReviewStream.Toml.Scalar
import ReviewStream.Toml.Writer
import ReviewStream.Transport.Basic
import ReviewStream.Transport.Script
import ReviewStream.Url.Authority
import ReviewStream.Url.Host
import ReviewStream.Url.Punycode
import ReviewStream.Watchdog.Basic
import ReviewStream.Watchdog.Task
import ReviewStream.Watchdog.Window
import ReviewStream.Whitelist.Basic
import ReviewStream.Whitelist.Project
import ReviewStream.Whitelist.Refresh
import ReviewStream.Whitelist.Refreshing
import ReviewStream.Whitelist.Shared
import ReviewStream.Proofs.Text.Pieces
import ReviewStream.Proofs.Json.Reading
import ReviewStream.Proofs.Json.Place
import ReviewStream.Proofs.Event.Project
import ReviewStream.Proofs.LineBuffer.Invariant
import ReviewStream.Proofs.LineBuffer.Delivery
import ReviewStream.Proofs.Pool.Workers
import ReviewStream.Proofs.Pool.Outline
import ReviewStream.Proofs.Pool.Sections
import ReviewStream.Proofs.Pool.Accounting
import ReviewStream.Proofs.Pool.Wakeups
import ReviewStream.Proofs.Connection.Steps
import ReviewStream.Proofs.Connection.Transcript
import ReviewStream.Proofs.Connection.Posting
import ReviewStream.Proofs.Listener.Containment
import ReviewStream.Proofs.Connection.Points
import ReviewStream.Proofs.Connection.Undisturbed
import ReviewStream.Proofs.Connection.Hearing
import ReviewStream.Proofs.Connection.Lifecycle
import ReviewStream.Proofs.Connection.Sessions
import ReviewStream.Proofs.Connection.Shutdown
import ReviewStream.Proofs.Dispatch.Processing
import ReviewStream.Proofs.Pool.Running
import ReviewStream.Proofs.Dispatch.Owed
import ReviewStream.Proofs.Dispatch.Scheduling
import ReviewStream.Proofs.Connection.Replacement
import ReviewStream.Proofs.Connection.Pauses
import ReviewStream.Proofs.Connection.Callers
import ReviewStream.Proofs.Whitelist.Agreement
import ReviewStream.Proofs.Pool.Sizing
import ReviewStream.Proofs.Pool.Moves
import ReviewStream.Proofs.Pool.Termination
import ReviewStream.Dispatch.Closing
import ReviewStream.Proofs.Pool.Draining
import ReviewStream.Proofs.Dispatch.Attended
import ReviewStream.Proofs.Dispatch.Draining
import ReviewStream.Proofs.Dispatch.Closing
import ReviewStream.Proofs.Dispatch.Alone
import ReviewStream.Proofs.Event.Decoding
import ReviewStream.Proofs.Pool.Resizing
import ReviewStream.Proofs.Watchdog.Timing
import ReviewStream.Proofs.Connection.Watchdogs
import ReviewStream.Proofs.Json.Abridged
import ReviewStream.Proofs.Event.RoundTrip
import ReviewStream.Proofs.Clock.RoundTrip
import ReviewStream.Proofs.Text.Utf8
import ReviewStream.Proofs.Config.Record
import ReviewStream.Proofs.Config.Saving
import ReviewStream.Proofs.Toml.Strings
import ReviewStream.Proofs.Toml.Values
import ReviewStream.Proofs.Toml.Documents
import ReviewStream.Proofs.Config.Document
import ReviewStream.Proofs.Whitelist.Scanning
import ReviewStream.Proofs.Pool.Undisturbed
import ReviewStream.Proofs.Pool.Growth
import ReviewStream.Proofs.Listener.Membership
import ReviewStream.Proofs.Listener.Rounds
import ReviewStream.Proofs.Listener.Suppression
import ReviewStream.Proofs.Text.WellFormed
import ReviewStream.Proofs.Whitelist.Reloading
import ReviewStream.Proofs.Text.Numerals
import ReviewStream.Proofs.Json.Slot
import ReviewStream.Proofs.Event.Numbers
import ReviewStream.Proofs.Whitelist.Refreshing
import ReviewStream.Proofs.Whitelist.LastCall
import ReviewStream.Proofs.Json.Layout
import ReviewStream.Proofs.Event.Unlisted
import ReviewStream.Proofs.Command.Quoting
import ReviewStream.Proofs.Command.Splitting
import ReviewStream.Proofs.Watchdog.Windows
import ReviewStream.Proofs.Command.Votes
import ReviewStream.Proofs.Text.Blanks
import ReviewStream.Proofs.Text.Rows
import ReviewStream.Proofs.Json.Written
import ReviewStream.Proofs.Command.Changes
import ReviewStream.Transport.Logbook
import ReviewStream.Command.Calls
import ReviewStream.Listener.Shared
import ReviewStream.Proofs.Command.Sessions
import ReviewStream.Proofs.Listener.Identity
import ReviewStream.Proofs.Listener.Sharing
import ReviewStream.Proofs.Connection.Credentials
import ReviewStream.Dispatch.Deadlines
import ReviewStream.Proofs.Dispatch.Deadlines
import ReviewStream.Proofs.Toml.Integers
import ReviewStream.Proofs.Config.Words
import ReviewStream.Proofs.Whitelist.Intervals
import ReviewStream.Proofs.Config.Timing
import ReviewStream.Proofs.Cli.Framing
import ReviewStream.LineBuffer.Memory
import ReviewStream.Proofs.LineBuffer.Memory
import ReviewStream.Proofs.Ssh.Paths
import ReviewStream.Proofs.Ssh.Steps
import ReviewStream.Proofs.Ssh.Numbers
import ReviewStream.Proofs.Ssh.Separation
