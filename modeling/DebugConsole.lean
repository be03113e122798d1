import DebugConsole.Breakpoints.Basic
import DebugConsole.Breakpoints.Query
import DebugConsole.Breakpoints.Reply
import DebugConsole.Debugger.Bashdb
import DebugConsole.Debugger.Basic
import DebugConsole.Debugger.Command
import DebugConsole.Debugger.Console
import DebugConsole.Debugger.Gdb
import DebugConsole.Debugger.Lldb
import DebugConsole.Debugger.Pdb
import DebugConsole.Directories
import DebugConsole.Entries
import DebugConsole.Error
import DebugConsole.Host
import DebugConsole.Invocation.Basic
import DebugConsole.Invocation.Reader
import DebugConsole.Invocation.Run
import DebugConsole.Json.Basic
import DebugConsole.Json.Decode
import DebugConsole.Json.Reader
import DebugConsole.Json.Writer
import DebugConsole.Listener.Basic
import DebugConsole.Listener.Event
import DebugConsole.Listener.Rule
import DebugConsole.Listener.Script
import DebugConsole.Location
import DebugConsole.Main
import DebugConsole.Number.Double
import DebugConsole.Number.Shortest
import DebugConsole.Path.Basic
import DebugConsole.Path.Clean
import DebugConsole.Pattern.Basic
import DebugConsole.Pattern.CharSet
import DebugConsole.Pattern.Match
import DebugConsole.Pattern.Reader
import DebugConsole.Proofs.Breakpoints.Acceptance
import DebugConsole.Proofs.Breakpoints.Listing
import DebugConsole.Proofs.Breakpoints.Query
import DebugConsole.Proofs.Breakpoints.Refusal
import DebugConsole.Proofs.Breakpoints.Replay
import DebugConsole.Proofs.Debugger.Cycles
import DebugConsole.Proofs.Debugger.Exits
import DebugConsole.Proofs.Debugger.Locations
import DebugConsole.Proofs.Debugger.Marker
import DebugConsole.Proofs.Debugger.Notices
import DebugConsole.Proofs.Debugger.Quiescence
import DebugConsole.Proofs.Debugger.Rules
import DebugConsole.Proofs.Debugger.Sightings
import DebugConsole.Proofs.Debugger.Stalls
import DebugConsole.Proofs.Debugger.States
import DebugConsole.Proofs.Json.Exactness
import DebugConsole.Proofs.Json.Grammar
import DebugConsole.Proofs.Json.Literals
import DebugConsole.Proofs.Json.RoundTrip
import DebugConsole.Proofs.Json.Strings
import DebugConsole.Proofs.Json.Written
import DebugConsole.Proofs.Listener.Arrival
import DebugConsole.Proofs.Listener.Decoding
import DebugConsole.Proofs.Listener.History
import DebugConsole.Proofs.Listener.Invariant
import DebugConsole.Proofs.Listener.Operations
import DebugConsole.Proofs.Listener.Progress
import DebugConsole.Proofs.Listener.Settled
import DebugConsole.Proofs.Listener.Uneventful
import DebugConsole.Proofs.Location
import DebugConsole.Proofs.Path.Canonical
import DebugConsole.Proofs.Path.Components
import DebugConsole.Proofs.Path.Resolution
import DebugConsole.Proofs.Pattern.Parts
import DebugConsole.Proofs.Pattern.Search
import DebugConsole.Proofs.Pattern.Spelling
import DebugConsole.Proofs.Proxy.Answers
import DebugConsole.Proofs.Proxy.Network
import DebugConsole.Proofs.Session.Calls
import DebugConsole.Proofs.Session.Dispatch
import DebugConsole.Proofs.Session.Exchanges
import DebugConsole.Proofs.Session.Faithful
import DebugConsole.Proofs.Session.Independence
import DebugConsole.Proofs.Session.Lines
import DebugConsole.Proofs.Session.Operations
import DebugConsole.Proofs.Session.Shown
import DebugConsole.Proofs.Session.Toggling
import DebugConsole.Proofs.Text.Replacement
import DebugConsole.Proofs.Text.Utf8
import DebugConsole.Proxy.Address
import DebugConsole.Proxy.Basic
import DebugConsole.Scenario.Basic
import DebugConsole.Scenario.Check
import DebugConsole.Scenario.Reader
import DebugConsole.Scenario.Run
import DebugConsole.Session.Basic
import DebugConsole.Session.Note
import DebugConsole.Session.Rehearsal
import DebugConsole.Session.Sink
import DebugConsole.Settings
import DebugConsole.Text.Blank
import DebugConsole.Text.Digit
import DebugConsole.Text.Graphic
import DebugConsole.Text.LetterCase
import DebugConsole.Text.Numeral
import DebugConsole.Text.Quoted
import DebugConsole.Text.Ranges
import DebugConsole.Text.Utf8
import DebugConsole.Text.Word
import DebugConsole.Toml.Basic
import DebugConsole.Toml.Reader
import DebugConsole.Yaml.Basic
import DebugConsole.Yaml.Reader
import DebugConsole.Proofs.Debugger.Commands
import DebugConsole.Proofs.Debugger.Jumps
import DebugConsole.Proofs.Scenario.Expectations
import DebugConsole.Proofs.Scenario.Observation
import DebugConsole.Proofs.Scenario.Verdict
