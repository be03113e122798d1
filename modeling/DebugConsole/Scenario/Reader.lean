import DebugConsole.Scenario.Basic
import DebugConsole.Yaml.Reader

/-!
# Reading scenarios

How scenarios stand in YAML. The members of a scenario itself take the text of any
scalar. Steps are stricter: there, texts must not look like numbers, truth values or
nothing unless they are in quotation marks. A group of members may also be written as
the list of all of them in their order. Unknown members are passed over, and one that
stands twice is refused.
-/

namespace DebugConsole

namespace Yaml.Value

/-- A text. -/
def text? : Value → Option String
  | .string text => some text
  | _ => none

/-- A line number. -/
def line? : Value → Option Nat
  | .integer value =>
    if 0 ≤ value ∧ value ≤ Numeral.largest32 then some value.toNat else none
  | _ => none

/-- A truth value. -/
def boolean? : Value → Option Bool
  | .boolean value => some value
  | _ => none

/-- A path. -/
def path? (value : Value) : Option Path := value.text?.map (⟨·⟩)

/-- Reads every item of a list. -/
def list? {Item : Type} (read : Value → Option Item) : Value → Option (List Item)
  | .sequence items => items.mapM read
  | _ => none

/-- The name of a state, which may also be the only name in a mapping. -/
def state? : Value → Option RunState
  | .string name | .mapping [(.string name, .null)] | .mapping [(.string name, .mapping [])] =>
    RunState.ofName? name
  | _ => none

/-- Breakpoints by the texts of their lines. -/
def breakpoints? : Value → Option Breakpoints
  | .mapping entries =>
    (entries.mapM fun ((line, ids) : Value × Value) => do
      return (← line.text?, ← ids.list? text?)).map Breakpoints.ofPairs
  | _ => none

/-- The name of the member that a key stands for, which may be given by its place
among the known ones; nothing for an unknown one. -/
def memberName? (names : List String) : Value → Option (Option String)
  | .string name => some (if names.contains name then some name else none)
  | .integer place => if 0 ≤ place then some names[place.toNat]? else none
  | _ => none

/-- The known ones of some members. -/
def membersOf? (names : List String) (entries : List (Value × Value)) :
    Option (List (String × Value)) := do
  let named ← entries.mapM fun ((key, value) : Value × Value) => do
    return (← memberName? names key, value)
  let known := named.filterMap fun ((name, value) : Option String × Value) => name.map (·, value)
  if (known.map (·.1)).eraseDups.length = known.length then some known else none

/-- The known members of a group. -/
def members? (names : List String) : Value → Option (List (String × Value))
  | .mapping entries => membersOf? names entries
  | .sequence items => if items.length = names.length then some (names.zip items) else none
  | _ => none

/-- Reads a member that must be there. -/
def required? {Item : Type} (members : List (String × Value)) (name : String)
    (read : Value → Option Item) : Option Item :=
  (members.lookup name).bind read

/-- Reads a member that may be missing or nothing. -/
def optional? {Item : Type} (members : List (String × Value)) (name : String)
    (read : Value → Option Item) : Option (Option Item) :=
  match members.lookup name with
  | none | some .null => some none
  | some value => (read value).map some

/-! ## Expectations -/

/-- What is expected of a note. -/
def noteExpectation? (value : Value) : Option NoteExpectation := do
  let members ← value.members? ["event", "file", "line", "breakpoints", "message_contains"]
  return ⟨← required? members "event" text?, ← optional? members "file" text?,
    ← optional? members "line" line?, ← optional? members "breakpoints" breakpoints?,
    ← optional? members "message_contains" text?⟩

/-- What is expected after the debugger printed something. -/
def feedExpectation? (value : Value) : Option FeedExpectation := do
  let members ← value.members? ["events", "state"]
  return ⟨← optional? members "events" (list? noteExpectation?), ← optional? members "state" state?⟩

/-- What is expected after a command. -/
def commandExpectation? (value : Value) : Option CommandExpectation := do
  let members ← value.members? ["sent", "interrupted"]
  return ⟨← optional? members "sent" text?, ← optional? members "interrupted" boolean?⟩

/-! ## Steps -/

/-- The action of a step, and the value that has its members. -/
def action? : Value → Option (String × Value)
  | .sequence (.string action :: items) => some (action, .sequence items)
  | .mapping entries =>
    let isAction (entry : Value × Value) : Bool :=
      match entry.1 with
      | .string name => name == "action"
      | _ => false
    match entries.filter isAction with
    | [(_, .string action)] => some (action, .mapping (entries.filter (!isAction ·)))
    | _ => none
  | _ => none

/-- A step of a scenario. -/
def step? (value : Value) : Option ScenarioStep := do
  let (action, group) ← value.action?
  match action with
  | "feed" =>
    let members ← group.members? ["output", "expect"]
    return .feed (← required? members "output" text?) (← optional? members "expect" feedExpectation?)
  | "respond" =>
    let members ← group.members? ["response"]
    return .respond (← optional? members "response" text?)
  | "toggle" =>
    let members ← group.members? ["file", "line", "expect"]
    return .toggle (← required? members "file" path?) (← required? members "line" line?)
      (← optional? members "expect" commandExpectation?)
  | "send" =>
    let members ← group.members? ["command", "args", "expect"]
    let arguments ← ((members.lookup "args").getD (.sequence [])).list? text?
    return .send (← required? members "command" text?) arguments
      (← optional? members "expect" commandExpectation?)
  | _ => none

end Yaml.Value

namespace Scenario

/-- The text of a scalar of any kind. -/
def text? : Yaml → Option String
  | .scalar _ _ text => some text
  | _ => none

/-- The text of a scalar, if it does not stand for nothing. -/
def optionalText? : Yaml → Option (Option String)
  | .scalar .unsaid true text => some (if Yaml.isNullWord text then none else some text)
  | .scalar (.standard "null") true text => if Yaml.isNullWord text then some none else none
  | .scalar _ _ text => some (some text)
  | _ => none

/-- The debugger that a scalar names, by its text or by a tag of its own in front of
nothing. -/
def debugger? : Yaml → Option Debugger
  | .scalar (.custom name) plain text =>
    if plain && Yaml.isNullWord text then Debugger.ofName? name else none
  | .scalar _ _ text => Debugger.ofName? text
  | _ => none

/-- How deep the collections of a document may be nested. -/
def depthLimit : Nat := 128

/-- The steps of a scenario; there may be nothing in their place. The scenario and the
list of its steps are two of the collections around each. -/
def steps? : Yaml → Option (List ScenarioStep)
  | .scalar _ true "" => some []
  | .sequence _ items => items.mapM fun item => (item.value? (depthLimit - 2)).bind (·.step?)
  | _ => none

/-- The members of a scenario. -/
def memberNames : List String := ["name", "description", "backend", "base_dir", "steps"]

/-- Reads a member that may be missing. -/
def optional? (members : List (String × Yaml)) (name : String) : Option (Option String) :=
  match members.lookup name with
  | none => some none
  | some node => optionalText? node

/-- The scenario that a node stands for. -/
def ofYaml? : Yaml → Option Scenario
  | .mapping _ entries => do
    let named ← entries.mapM fun ((key, value) : Yaml × Yaml) => do return (← text? key, value)
    let members := named.filter fun member => memberNames.contains member.1
    if (members.map (·.1)).eraseDups.length ≠ members.length then none
    let base ← optional? members "base_dir"
    return ⟨← (members.lookup "name").bind text?, ← optional? members "description",
      ← (members.lookup "backend").bind debugger?, base.map (⟨·⟩),
      ← (members.lookup "steps").bind steps?⟩
  | _ => none

/-- The scenario of a YAML document. -/
def read (text : String) : Except Error Scenario :=
  match (Yaml.read text).bind ofYaml? with
  | some scenario => .ok scenario
  | none => .error .unreadableYaml

end Scenario

end DebugConsole
