import DebugConsole.Debugger.Console

/-!
# Commands

An editor asks for a command by one name whatever the debugger; `translate` gives
the debugger's own spelling, a template whose pairs of braces are places for
arguments. `format` puts the arguments there, in order and as they are.
-/

namespace DebugConsole.Debugger

/-- A command with fewer arguments than places for them. -/
structure MissingArgument where
  command : String
  expected : Nat
  given : Nat
  deriving DecidableEq, Repr

/-- A debugger's spelling of a command; a name it has no spelling for stays. -/
def translate (debugger : Debugger) (command : String) : String :=
  (debugger.phrases.lookup command).getD command

/-- How many places for arguments a template has. -/
def places : List Char → Nat
  | '{' :: '}' :: rest => places rest + 1
  | _ :: rest => places rest
  | [] => 0

/-- A template with its places filled from the front of the arguments. Arguments
are not searched for places, and surplus ones are left out. -/
def fill : List Char → List String → Option (List Char)
  | '{' :: '}' :: _, [] => none
  | '{' :: '}' :: rest, argument :: later => (argument.toList ++ ·) <$> fill rest later
  | character :: rest, arguments => (character :: ·) <$> fill rest arguments
  | [], _ => some []

/-- A command in a debugger's spelling with its arguments. -/
def format (debugger : Debugger) (command : String) (arguments : List String) :
    Except MissingArgument String :=
  let template := (debugger.translate command).toList
  match fill template arguments with
  | some line => .ok (String.ofList line)
  | none => .error ⟨command, places template, arguments.length⟩

end DebugConsole.Debugger
