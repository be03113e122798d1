import DebugConsole.Listener.Rule

/-!
# Debuggers

The debuggers whose consoles are understood, and the reactions that their rules
share. What each of them prints is in a module of its own.
-/

namespace DebugConsole

/-- A debugger with a console that is understood. -/
inductive Debugger where
  | gdb
  | lldb
  | pdb
  | bashdb
  deriving DecidableEq, Repr, Inhabited

namespace Debugger

/-- Every debugger. -/
def all : List Debugger := [.gdb, .lldb, .pdb, .bashdb]

/-- The name of a debugger. -/
def name : Debugger → String
  | .gdb => "gdb"
  | .lldb => "lldb"
  | .pdb => "pdb"
  | .bashdb => "bashdb"

/-- The debugger with a given name. -/
def ofName? (name : String) : Option Debugger := all.find? (·.name == name)

@[simp] theorem ofName?_name (debugger : Debugger) : ofName? debugger.name = some debugger := by
  cases debugger <;> decide

/-- Whether locations are made absolute where nothing else is asked for: one of
these debuggers knows breakpoints by full paths only, and the other prints names
relative to where it was started. -/
def wantsAbsolutePaths : Debugger → Bool
  | .lldb | .bashdb => true
  | .gdb | .pdb => false

end Debugger

namespace Reaction

/-- The program stopped at the location in the first two groups. Where these are
no location, nothing is reported and the state stays what it was. -/
def jump (policy : Location.Policy) (state : RunState) (finding : Finding) : Reaction :=
  match finding.location policy with
  | .ok location => ⟨.paused, some (.jumpTo location)⟩
  | .error _ => ⟨state, none⟩

/-- The debugger waits for input. -/
def query : Reaction := ⟨.paused, some .readyForQuery⟩

/-- The program stopped, at a place that is told later. -/
def pause : Reaction := ⟨.paused, none⟩

/-- The program goes on. -/
def resume : Reaction := ⟨.running, some .resumedRunning⟩

/-- The program is gone. -/
def terminate : Reaction := ⟨.terminated, some .terminated⟩

end Reaction

namespace Pattern

/-- A pattern of parts in sequence, whose groups have no names. -/
def ofParts (source : String) (parts : List Node) : Pattern := ⟨source, .ofList parts, []⟩

/-- A pattern of parts in sequence, whose third group is the tail. -/
def withTail (source : String) (parts : List Node) : Pattern :=
  ⟨source, .ofList parts, [(Finding.tailName, 3)]⟩

namespace Node

/-- The characters of a text, one part each. -/
def characters (text : String) : List Node := text.toList.map char

/-- A carriage return or a line feed. -/
def lineBreak : Node := .set (.ofList ['\r', '\n'])

/-- One or more decimal digits. -/
def number : Node := .run true .digit

/-- One or more characters other than the given ones. -/
def except (members : List Char) : Node := .run true (.complement (.ofList members))

/-- The end of the text. -/
def textEnd : Node := .anchor .textEnd

end Node

end Pattern

end DebugConsole
