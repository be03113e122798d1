import DebugConsole.Debugger.Basic

/-!
# The console of lldb

lldb reports the life of the process by its number, and locations as the end of a
frame description. Notices of resumption and the exit notice come before frame
locations, since reports of stops are full of these, and the prompt, which lldb
echoes twice, comes last. A location needs the character behind the line number,
or a number cut short would be taken for the whole one.
-/

namespace DebugConsole.Debugger.Lldb

open Pattern Pattern.Node

/-- A notice about the process with a given end. -/
def processNotice (ending : String) : List Node :=
  characters "Process " ++ [number] ++ characters ending

/-- The process goes on. -/
def resuming : Pattern := .ofParts "Process \\d+ resuming" (processNotice " resuming")

/-- The process was started. -/
def launched : Pattern := .ofParts "Process \\d+ launched" (processNotice " launched")

/-- The process stopped. -/
def stopped : Pattern := .ofParts "Process \\d+ stopped" (processNotice " stopped")

/-- The process has ended. -/
def exited : Pattern :=
  .ofParts "Process \\d+ exited with status" (processNotice " exited with status")

/-- The location of a frame and the character behind it. -/
def location : Pattern :=
  .withTail " at ([^:\\r\\n]+):(\\d+)(?P<tail>\\D)"
    (characters " at " ++
      [.group 1 (.except [':', '\r', '\n']), char ':', .group 2 number,
        .group 3 (.set (.complement .digit))])

/-- The prompt and its echo, with nothing after them. -/
def prompt : Pattern :=
  .ofParts "\\s\\(lldb\\) \\(lldb\\) $"
    (.set .blank :: characters "(lldb) (lldb) " ++ [textEnd])

/-- The rules of lldb's console. -/
def rulebook (policy : Location.Policy) : Rulebook :=
  ⟨[(.paused, ⟨resuming, fun _ => .resume⟩),
    (.paused, ⟨launched, fun _ => .resume⟩),
    (.paused, ⟨exited, fun _ => .terminate⟩),
    (.paused, ⟨location, .jump policy .paused⟩),
    (.paused, ⟨prompt, fun _ => .query⟩),
    (.running, ⟨stopped, fun _ => .pause⟩),
    (.running, ⟨exited, fun _ => .terminate⟩),
    (.running, ⟨prompt, fun _ => .query⟩),
    (.terminated, ⟨resuming, fun _ => .resume⟩),
    (.terminated, ⟨launched, fun _ => .resume⟩),
    (.terminated, ⟨location, .jump policy .terminated⟩),
    (.terminated, ⟨prompt, fun _ => .query⟩)]⟩

/-- The state in which lldb starts. -/
def start : RunState := .running

/-- The states that lldb's console can show. -/
def states : List RunState := [.running, .paused, .terminated]

/-- The commands that lldb spells in its own way. -/
def phrases : List (String × String) :=
  [("delete_breakpoints", "breakpoint delete"), ("breakpoint", "b"),
    ("until \x7b\x7d", "thread until \x7b\x7d"),
    ("info breakpoints", "nvim-gdb-info-breakpoints")]

end DebugConsole.Debugger.Lldb
