import DebugConsole.Debugger.Basic
import DebugConsole.Json.Reader
import DebugConsole.Json.Writer

/-!
# Domain values in JSON

How states, debuggers and locations stand in JSON, and which JSON values stand for
them. A name may also stand as the only member of an object, with no value; a
location may also be the list of its two parts. Members that a location does not
have are passed over, and one that stands twice is refused.
-/

namespace DebugConsole.Json

/-- The name that a value spells. -/
def name? : Json → Option String
  | .string name => some name
  | .object [(name, .null)] => some name
  | _ => none

/-- The state that a value stands for. -/
def state? (value : Json) : Option RunState := value.name?.bind RunState.ofName?

/-- The debugger that a value stands for. -/
def debugger? (value : Json) : Option Debugger := value.name?.bind Debugger.ofName?

/-- The path that a value stands for. -/
def path? : Json → Option Path
  | .string text => some ⟨text⟩
  | _ => none

/-- The line number that a value stands for; zero is none that a console shows, but
can be written. -/
def line? : Json → Option Nat
  | .number (.whole value) =>
    if 0 ≤ value ∧ value ≤ Numeral.largest32 then some value.toNat else none
  | _ => none

/-- The value of the member with a given name, if it stands there exactly once. -/
def member? (members : List (String × Json)) (name : String) : Option Json :=
  match members.filter (·.1 == name) with
  | [(_, value)] => some value
  | _ => none

/-- The location that a value stands for. -/
def location? : Json → Option Location
  | .object members => do
    let file ← (member? members "file").bind path?
    let line ← (member? members "line").bind line?
    some ⟨file, line⟩
  | .array [file, line] => do some ⟨← file.path?, ← line.line?⟩
  | _ => none

/-- A state in JSON. -/
def ofState (state : RunState) : Json := .string state.name

/-- A debugger in JSON. -/
def ofDebugger (debugger : Debugger) : Json := .string debugger.name

/-- A location in JSON. -/
def ofLocation (location : Location) : Json :=
  .object [("file", .string location.file.text), ("line", .number (.whole location.line))]

end DebugConsole.Json
