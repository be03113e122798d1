import DebugConsole.Breakpoints.Query
import DebugConsole.Debugger.Command
import DebugConsole.Session.Note

/-!
# Sessions

A session goes with one running debugger. It is fed the debugger's output, asks for
breakpoints whenever the debugger waits for input, and types commands. What lies
outside, the terminal and the channel to the debugger's proxy, is a value of
`Surroundings`, whose operations act on a state of its own; what the editor is told
is returned as notes.
-/

namespace DebugConsole

/-- What a session reaches: a channel that answers requests, and a terminal that
takes lines and interrupts and may fail to. -/
structure Surroundings (World : Type) where
  request : String → StateM World Answer
  sendLine : String → StateM World (Except Error Unit)
  interrupt : StateM World (Except Error Unit)

/-- A debugging session. -/
structure Session where
  debugger : Debugger
  listener : Listener
  store : BreakpointStore
  /-- The file whose breakpoints are shown. -/
  watched : Option Path
  /-- The last line that the terminal took. -/
  lastCommand : Option String

namespace Session

variable {World : Type}

/-- A session with a debugger that has just been started. -/
def start (debugger : Debugger) (options : Debugger.Options) : Session :=
  ⟨debugger, debugger.listener options, .empty, none, none⟩

/-- The state of the debugged program. -/
def state (session : Session) : RunState := session.listener.state

/-- What an editor is told of a query for a file. A failure of the channel is not
told. -/
def queryNotes (file : Path) : Except QueryFault Breakpoints → List Note
  | .ok breakpoints => [.breakpointsUpdated file breakpoints]
  | .error (.malformed _) => [.breakpointsUpdated file .empty]
  | .error (.reported message) => [.queryError file message]
  | .error (.channel _) => []

/-- Asks again for the breakpoints of the watched file, if there is one. -/
def refresh (surroundings : Surroundings World) (session : Session) :
    StateM World (List Note × Session) :=
  match session.watched with
  | none => return ([], session)
  | some file => do
    let (outcome, store) ← session.store.query surroundings.request file
    return (queryNotes file outcome, { session with store := store })

/-- Acts on one event. -/
def react (surroundings : Surroundings World) (session : Session) :
    Event → StateM World (List Note × Session)
  | .jumpTo location => return ([.jump location], { session with watched := some location.file })
  | .readyForQuery => session.refresh surroundings
  | .resumedRunning => return ([.resumed], session)
  | .terminated => return ([.terminated], session)
  | .stalled discarded => return ([.stalled discarded], session)

/-- Acts on events one after the other. -/
def reactAll (surroundings : Surroundings World) (session : Session) :
    List Event → StateM World (List Note × Session)
  | [] => return ([], session)
  | event :: later => do
    let (notes, session) ← session.react surroundings event
    let (further, session) ← session.reactAll surroundings later
    return (notes ++ further, session)

/-- Feeds a chunk of the debugger's output. -/
def feed (surroundings : Surroundings World) (session : Session) (chunk : List UInt8) :
    StateM World (List Note × Session) :=
  let (events, listener) := session.listener.feed chunk
  reactAll surroundings { session with listener := listener } events

/-- Shows the breakpoints of a file from now on. -/
def watch (surroundings : Surroundings World) (session : Session) (file : Path) :
    StateM World (List Note × Session) :=
  refresh surroundings { session with watched := some file }

/-- Types a line and remembers it if the terminal took it. -/
def sendLine (surroundings : Surroundings World) (session : Session) (line : String) :
    StateM World (Except Error Unit × Session) := do
  match ← surroundings.sendLine line with
  | .ok () => return (.ok (), { session with lastCommand := some line })
  | .error error => return (.error error, session)

/-- Sends a command in the debugger's spelling. -/
def send (surroundings : Surroundings World) (session : Session) (command : String)
    (arguments : List String) : StateM World (Except Error Unit × Session) :=
  match session.debugger.format command arguments with
  | .ok line => session.sendLine surroundings line
  | .error missing => return (.error (.missingArgument missing), session)

/-- Interrupts the program if it is running. -/
def interruptIfRunning (surroundings : Surroundings World) (session : Session) :
    StateM World (Except Error Unit) :=
  if session.state = .running then surroundings.interrupt else return .ok ()

/-- The line that toggles a breakpoint: it deletes the newest one at that place if
there is one, and sets one otherwise. -/
def toggleLine (session : Session) (file : Path) (line : Nat) : String :=
  match (session.store.lookup file line).getLast? with
  | some id => session.debugger.translate "delete_breakpoints" ++ " " ++ id
  | none => session.debugger.translate "breakpoint" ++ " " ++ Location.text ⟨file, line⟩

/-- Toggles the breakpoint at a line of a file. A running program is interrupted
first. -/
def toggle (surroundings : Surroundings World) (session : Session) (file : Path) (line : Nat) :
    StateM World (Except Error Unit × Session) := do
  match ← session.interruptIfRunning surroundings with
  | .error error => return (.error error, session)
  | .ok () =>
    sendLine surroundings { session with watched := some file } (session.toggleLine file line)

/-- Deletes every breakpoint. A running program is interrupted first. -/
def clearAll (surroundings : Surroundings World) (session : Session) :
    StateM World (Except Error Unit × Session) := do
  match ← session.interruptIfRunning surroundings with
  | .error error => return (.error error, session)
  | .ok () => session.send surroundings "delete_breakpoints" []

/-- The request that has a command run through the channel. -/
def customRequest (command : String) : String := "handle-command " ++ command

/-- Has a command run through the channel and returns its output. -/
def custom (surroundings : Surroundings World) (command : String) :
    StateM World (Except Error (Option String)) := do
  return (← surroundings.request (customRequest command)).toExcept

/-- Ends the session: no breakpoints are known and no file is watched any more. -/
def finish (session : Session) : Session := { session with store := .empty, watched := none }

end Session

end DebugConsole
