import DebugConsole.Debugger.Basic

/-!
# The console of pdb

pdb runs the program in its own process and prints a location and a prompt after
every command, so its console never shows a running program. The restart notice
comes before the location, since the location of the new start is printed right
behind it.
-/

namespace DebugConsole.Debugger.Pdb

open Pattern Pattern.Node

/-- The program came to its end. -/
def finished : Pattern :=
  .ofParts "[\\r\\n]The program finished and will be restarted"
    (lineBreak :: characters "The program finished and will be restarted")

/-- The location of a frame, up to the brackets behind the function's name. -/
def location : Pattern :=
  .ofParts "[\\r\\n]> ([^(\\r\\n]+)\\((\\d+)\\)[^(\\r\\n]*\\(\\)"
    (lineBreak :: characters "> " ++
      [.group 1 (.except ['(', '\r', '\n']), char '(', .group 2 number, char ')',
        .optional true (.except ['(', '\r', '\n'])] ++ characters "()")

/-- The prompt, with nothing after it. -/
def prompt : Pattern :=
  .ofParts "[\\r\\n]\\(Pdb\\) $" (lineBreak :: characters "(Pdb) " ++ [textEnd])

/-- The rules of pdb's console. -/
def rulebook (policy : Location.Policy) : Rulebook :=
  ⟨[(.paused, ⟨finished, fun _ => .terminate⟩),
    (.paused, ⟨location, .jump policy .paused⟩),
    (.paused, ⟨prompt, fun _ => .query⟩),
    (.terminated, ⟨location, .jump policy .terminated⟩),
    (.terminated, ⟨prompt, fun _ => .query⟩)]⟩

/-- The state in which pdb starts. -/
def start : RunState := .paused

/-- The states that pdb's console can show. -/
def states : List RunState := [.paused, .terminated]

/-- The commands that pdb spells in its own way. -/
def phrases : List (String × String) :=
  [("delete_breakpoints", "clear"), ("breakpoint", "break"), ("finish", "return"),
    ("until \x7b\x7d", "until \x7b\x7d"), ("eval \x7b\x7d", "print(\x7b\x7d)")]

end DebugConsole.Debugger.Pdb
