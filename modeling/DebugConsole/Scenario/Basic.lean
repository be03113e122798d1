import DebugConsole.Session.Basic

/-!
# Scenarios

A scenario is a recorded debugging session: what the debugger printed, what its proxy
answered and what was asked of the session, together with what has to be observed
after each step.
-/

namespace DebugConsole

/-- What is expected of one note; only what is given counts. -/
structure NoteExpectation where
  name : String
  file : Option String
  line : Option Nat
  breakpoints : Option Breakpoints
  /-- A part of the message. -/
  fragment : Option String
  deriving DecidableEq

/-- What is expected after the debugger printed something. -/
structure FeedExpectation where
  notes : Option (List NoteExpectation)
  state : Option RunState
  deriving DecidableEq

/-- What is expected after a command. -/
structure CommandExpectation where
  /-- The line typed. -/
  typed : Option String
  /-- Whether the program was interrupted first. -/
  interrupted : Option Bool
  deriving DecidableEq

/-- A step of a scenario. -/
inductive ScenarioStep where
  /-- The debugger prints something. -/
  | feed (output : String) (expected : Option FeedExpectation)
  /-- The proxy will answer a later request, or stay silent. -/
  | respond (reply : Option String)
  /-- The breakpoint at a line is toggled. -/
  | toggle (file : Path) (line : Nat) (expected : Option CommandExpectation)
  /-- A command is sent. -/
  | send (command : String) (arguments : List String) (expected : Option CommandExpectation)
  deriving DecidableEq

/-- A scenario. -/
structure Scenario where
  name : String
  description : Option String
  debugger : Debugger
  /-- Where relative paths start, if they are to be made absolute. -/
  base : Option Path
  steps : List ScenarioStep
  deriving DecidableEq

/-- How the debugger's output is read in a scenario. -/
def Scenario.options (scenario : Scenario) : Debugger.Options :=
  ⟨scenario.base.elim .verbatim .absolute, .standard⟩

end DebugConsole
