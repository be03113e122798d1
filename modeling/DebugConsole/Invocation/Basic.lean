import DebugConsole.Debugger.Basic

/-!
# Invocations

What the program can be asked to do.
-/

namespace DebugConsole

/-- What the program is asked to do. -/
inductive Invocation where
  /-- Replay what a debugger printed and print what an editor would be told. -/
  | replay (debugger : Debugger) (transcript : Path) (chunkSize : Option Nat)
      (base addressFile : Option Path)
  /-- Print a command in a debugger's spelling. -/
  | translate (debugger : Debugger) (command : String) (arguments : List String)
  /-- Ask a debugger's proxy for the breakpoints of a file. -/
  | breakpoints (addressFile file : Path) (timeout : Option Nat)
  /-- Run scenarios. -/
  | test (files : List Path) (showNotes : Bool)

/-- Why arguments are no invocation. Asking for help counts as a reason, too. -/
inductive UsageFault where
  | help
  | nothingGiven
  | unknownCommand
  | unknownArgument
  | missingArgument
  | repeatedArgument
  /-- An option stands without its value, or a value is not one of those allowed. -/
  | badValue
  /-- A value is no number, or too large. -/
  | unreadableValue
  /-- A switch stands with a value. -/
  | needlessValue
  deriving DecidableEq, Repr

/-- The wording of a fault. -/
def UsageFault.message : UsageFault → String
  | .help => "replay, translate, breakpoints or test may be asked for"
  | .nothingGiven => "no command is given"
  | .unknownCommand => "there is no such command"
  | .unknownArgument => "an argument is not known"
  | .missingArgument => "an argument is missing"
  | .repeatedArgument => "an argument stands twice"
  | .badValue => "a value is missing or not allowed"
  | .unreadableValue => "a value is no suitable number"
  | .needlessValue => "a switch takes no value"

end DebugConsole
