import DebugConsole.Debugger.Basic

/-!
# The console of bashdb

The termination notice outranks everything: once the script is gone, an older
location in the same output is stale, and a prompt would take the notice away. A
location needs the line break behind it, which stays in place for what follows.
-/

namespace DebugConsole.Debugger.Bashdb

open Pattern Pattern.Node

/-- The script is gone. -/
def terminated : Pattern :=
  .ofParts "[\\r\\n]Debugged program terminated "
    (lineBreak :: characters "Debugged program terminated ")

/-- A location on a line of its own. -/
def location : Pattern :=
  .withTail "[\\r\\n]\\(([^:\\r\\n]+):(\\d+)\\):(?P<tail>[\\r\\n])"
    ([lineBreak, char '(', .group 1 (.except [':', '\r', '\n']), char ':', .group 2 number] ++
      characters "):" ++ [.group 3 lineBreak])

/-- The prompt, with nothing after it. -/
def prompt : Pattern :=
  .ofParts "[\\r\\n]bashdb<\\(?\\d+\\)?> $"
    (lineBreak :: characters "bashdb<" ++
      [.optional true (char '('), number, .optional true (char ')')] ++ characters "> " ++
      [textEnd])

/-- The rules of bashdb's console. -/
def rulebook (policy : Location.Policy) : Rulebook :=
  ⟨[(.paused, ⟨terminated, fun _ => .terminate⟩),
    (.paused, ⟨location, .jump policy .paused⟩),
    (.paused, ⟨prompt, fun _ => .query⟩),
    (.terminated, ⟨location, .jump policy .terminated⟩),
    (.terminated, ⟨prompt, fun _ => .query⟩)]⟩

/-- The state in which bashdb starts. -/
def start : RunState := .paused

/-- The states that bashdb's console can show. -/
def states : List RunState := [.paused, .terminated]

/-- The commands that bashdb spells in its own way. -/
def phrases : List (String × String) :=
  [("delete_breakpoints", "delete"), ("breakpoint", "break"), ("frame", "frame 0")]

end DebugConsole.Debugger.Bashdb
