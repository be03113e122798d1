import DebugConsole.Debugger.Basic

/-!
# The console of gdb

gdb runs with source annotations, which mark every stop with two control
characters, the file, the line and the column, and with three such characters as
its prompt. It starts the program at once, so its listener starts in the running
state.

In each state, notices of resumption come before the exit notice and the location,
so that a stale location in the same output does not hide them; the exit notice
comes before the location, so that a stop shortly before the exit does not hide
it; and the prompt, which is always printed last, comes last.
-/

namespace DebugConsole.Debugger.Gdb

open Pattern Pattern.Node

/-- The program was told to go on. -/
def continuing : Pattern :=
  .ofParts "[\\r\\n]Continuing\\." (lineBreak :: characters "Continuing.")

/-- The program is being started. -/
def starting : Pattern :=
  .ofParts "[\\r\\n]Starting program: " (lineBreak :: characters "Starting program: ")

/-- The program has ended. -/
def exited : Pattern :=
  .ofParts "[\\r\\n]\\[Inferior \\d+ \\(process \\d+\\) exited"
    (lineBreak :: characters "[Inferior " ++ [number] ++ characters " (process " ++ [number] ++
      characters ") exited")

/-- A breakpoint was reached. -/
def breakpoint : Pattern :=
  .ofParts "[\\r\\n]Breakpoint \\d+" (lineBreak :: characters "Breakpoint " ++ [number])

/-- The annotation of a stop. -/
def location : Pattern :=
  .ofParts "[\\r\\n]\\x1a\\x1a([^:\\r\\n]+):(\\d+):\\d+"
    (lineBreak :: characters "\x1a\x1a" ++
      [.group 1 (.except [':', '\r', '\n']), char ':', .group 2 number, char ':', number])

/-- The prompt, with nothing after it. -/
def prompt : Pattern := .ofParts "\\x1a\\x1a\\x1a$" (characters "\x1a\x1a\x1a" ++ [textEnd])

/-- The rules of gdb's console. -/
def rulebook (policy : Location.Policy) : Rulebook :=
  ⟨[(.paused, ⟨continuing, fun _ => .resume⟩),
    (.paused, ⟨starting, fun _ => .resume⟩),
    (.paused, ⟨exited, fun _ => .terminate⟩),
    (.paused, ⟨location, .jump policy .paused⟩),
    (.paused, ⟨prompt, fun _ => .query⟩),
    (.running, ⟨exited, fun _ => .terminate⟩),
    (.running, ⟨location, .jump policy .running⟩),
    (.running, ⟨breakpoint, fun _ => .query⟩),
    (.running, ⟨prompt, fun _ => .query⟩),
    (.terminated, ⟨continuing, fun _ => .resume⟩),
    (.terminated, ⟨starting, fun _ => .resume⟩),
    (.terminated, ⟨location, .jump policy .terminated⟩),
    (.terminated, ⟨prompt, fun _ => .query⟩)]⟩

/-- The state in which gdb starts. -/
def start : RunState := .running

/-- The states that gdb's console can show. -/
def states : List RunState := [.running, .paused, .terminated]

/-- The commands that gdb spells in its own way. -/
def phrases : List (String × String) :=
  [("delete_breakpoints", "delete"), ("breakpoint", "break")]

end DebugConsole.Debugger.Gdb
