import DebugConsole.Location

/-!
# What a console reports

The state of a debugged program as far as the console shows it, and the events
that are read off the console's output.
-/

namespace DebugConsole

/-- The state of the debugged program. -/
inductive RunState where
  | running
  | paused
  | terminated
  deriving DecidableEq, Repr, Inhabited

namespace RunState

/-- Every state. -/
def all : List RunState := [.running, .paused, .terminated]

/-- The name of a state. -/
def name : RunState → String
  | .running => "running"
  | .paused => "paused"
  | .terminated => "terminated"

/-- The state with a given name. -/
def ofName? (name : String) : Option RunState := all.find? (·.name == name)

@[simp] theorem ofName?_name (state : RunState) : ofName? state.name = some state := by
  cases state <;> decide

end RunState

/-- What happened, as read off the console. -/
inductive Event where
  /-- The program stopped at a location. -/
  | jumpTo (location : Location)
  /-- The debugger waits for input. -/
  | readyForQuery
  /-- The program goes on. -/
  | resumedRunning
  /-- The program is gone. -/
  | terminated
  /-- Output that nothing was recognised in was given up, so many bytes of it. -/
  | stalled (discarded : Nat)
  deriving DecidableEq, Repr

/-- The name of an event. -/
def Event.name : Event → String
  | .jumpTo _ => "jump_to"
  | .readyForQuery => "ready_for_query"
  | .resumedRunning => "resumed_running"
  | .terminated => "terminated"
  | .stalled _ => "stalled"

end DebugConsole
