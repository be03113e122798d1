import DebugConsole.Debugger.Bashdb
import DebugConsole.Debugger.Gdb
import DebugConsole.Debugger.Lldb
import DebugConsole.Debugger.Pdb
import DebugConsole.Listener.Basic

/-!
# Each debugger's console

What a debugger's own module says about its console, by debugger, and the listener
that starts from it.
-/

namespace DebugConsole.Debugger

/-- The rules of a debugger's console. -/
def rulebook (policy : Location.Policy) : Debugger → Rulebook
  | .gdb => Gdb.rulebook policy
  | .lldb => Lldb.rulebook policy
  | .pdb => Pdb.rulebook policy
  | .bashdb => Bashdb.rulebook policy

/-- The state in which a debugger starts. -/
def start : Debugger → RunState
  | .gdb => Gdb.start
  | .lldb => Lldb.start
  | .pdb => Pdb.start
  | .bashdb => Bashdb.start

/-- The states that a debugger's console can show. -/
def states : Debugger → List RunState
  | .gdb => Gdb.states
  | .lldb => Lldb.states
  | .pdb => Pdb.states
  | .bashdb => Bashdb.states

/-- The commands that a debugger spells in its own way. -/
def phrases : Debugger → List (String × String)
  | .gdb => Gdb.phrases
  | .lldb => Lldb.phrases
  | .pdb => Pdb.phrases
  | .bashdb => Bashdb.phrases

/-- How the output of a debugger is to be read. -/
structure Options where
  policy : Location.Policy
  bounds : Bounds
  deriving DecidableEq, Repr

/-- Names as printed, within the standard bounds. -/
def Options.standard : Options := ⟨.verbatim, .standard⟩

/-- A listener for a debugger that has just been started. -/
def listener (debugger : Debugger) (options : Options) : Listener :=
  .fresh (debugger.rulebook options.policy) debugger.start options.bounds

/-- Every state that a console can show has rules, whatever the policy. -/
theorem silent_states (debugger : Debugger) (policy : Location.Policy) :
    (debugger.rulebook policy).silent debugger.states = [] := by
  cases debugger <;> rfl

end DebugConsole.Debugger
