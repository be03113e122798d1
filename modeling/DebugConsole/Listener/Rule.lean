import DebugConsole.Listener.Event
import DebugConsole.Pattern.Match

/-!
# Rules

A rule answers a pattern in the console's output by a new state and possibly an
event. A `Rulebook` holds the rules of each state in order of precedence.
-/

namespace DebugConsole

/-- The answer to a pattern that was found. -/
structure Reaction where
  next : RunState
  event : Option Event
  deriving DecidableEq, Repr

/-- A pattern found in a text. -/
structure Finding where
  text : List Char
  pattern : Pattern
  found : Match

namespace Finding

/-- The characters of a group, none for a group that took no part. -/
def group (finding : Finding) (index : Nat) : List Char :=
  match finding.found.group? index with
  | some span => span.text finding.text
  | none => []

/-- The group whose characters a rule must see but leaves in place. -/
def tailName : String := "tail"

/-- How many characters of the text a rule takes away: those in front of the tail
if the tail took part, and otherwise all up to the end of the match. -/
def consumed (finding : Finding) : Nat :=
  match (finding.pattern.groupNumber? tailName).bind finding.found.group? with
  | some tail => tail.start
  | none => finding.found.span.stop

/-- The location in the first two groups. -/
def location (finding : Finding) (policy : Location.Policy) : Except Location.Fault Location :=
  Location.resolve policy (finding.group 1) (finding.group 2)

end Finding

/-- A pattern and the answer to it. -/
structure Rule where
  pattern : Pattern
  react : Finding → Reaction

/-- The first place in a text where the pattern of a rule is found. -/
def Rule.find? (rule : Rule) (text : List Char) : Option Finding :=
  (rule.pattern.match? text).map fun found => ⟨text, rule.pattern, found⟩

/-- The rules of each state. -/
structure Rulebook where
  entries : List (RunState × Rule)

namespace Rulebook

/-- A rulebook without rules. -/
def empty : Rulebook := ⟨[]⟩

/-- Appends a rule to those of a state. -/
def add (book : Rulebook) (state : RunState) (rule : Rule) : Rulebook :=
  ⟨book.entries ++ [(state, rule)]⟩

/-- The rules of a state, in order of precedence. -/
def rules (book : Rulebook) (state : RunState) : List Rule :=
  book.entries.filterMap fun entry => if entry.1 = state then some entry.2 else none

/-- Those of the given states that have no rule. -/
def silent (book : Rulebook) (states : List RunState) : List RunState :=
  states.filter fun state => (book.rules state).isEmpty

@[simp] theorem rules_empty (state : RunState) : empty.rules state = [] := rfl

@[simp] theorem rules_add (book : Rulebook) (state other : RunState) (rule : Rule) :
    (book.add state rule).rules other =
      book.rules other ++ if state = other then [rule] else [] := by
  by_cases same : state = other <;> simp [add, rules, same]

end Rulebook

end DebugConsole
