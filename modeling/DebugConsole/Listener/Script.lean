import DebugConsole.Listener.Rule
import DebugConsole.Pattern.Reader
import DebugConsole.Text.Quoted

/-!
# Rules written down as data

A `RuleScript` spells its pattern as text and picks its reaction from a fixed
choice. A rulebook is made of such scripts if every pattern can be read.
-/

namespace DebugConsole

/-- What a written rule reports. -/
inductive Announcement where
  | nothing
  | jumpTo
  | readyForQuery
  | resumedRunning
  | terminated
  deriving DecidableEq, Repr

namespace Announcement

/-- The announcement with the name of its event. -/
def ofName? : String → Option Announcement
  | "jump_to" => some .jumpTo
  | "ready_for_query" => some .readyForQuery
  | "resumed_running" => some .resumedRunning
  | "terminated" => some .terminated
  | _ => none

/-- The event that is reported for a finding. Two groups that are no location are
not reported. -/
def event? (policy : Location.Policy) (finding : Finding) : Announcement → Option Event
  | .nothing => none
  | .jumpTo => (finding.location policy).toOption.map .jumpTo
  | .readyForQuery => some .readyForQuery
  | .resumedRunning => some .resumedRunning
  | .terminated => some .terminated

end Announcement

/-- A rule as it is written down. -/
structure RuleScript where
  state : RunState
  pattern : String
  next : RunState
  announcement : Announcement
  deriving Repr

namespace RuleScript

/-- The rule that is written down, if its pattern can be read. -/
def rule? (script : RuleScript) (policy : Location.Policy) : Option Rule :=
  (Pattern.read? script.pattern).map fun pattern =>
    ⟨pattern, fun finding => ⟨script.next, script.announcement.event? policy finding⟩⟩

/-- The text that stands for a rule where rules are listed. -/
def description (rule : Rule) : String :=
  "Rule \x7b pattern: " ++ Text.quote rule.pattern.source ++ ", .. \x7d"

end RuleScript

/-- Appends written rules to a rulebook. The first one that cannot be read is told
by its place; the first of them has the given one. -/
def Rulebook.addScripts (book : Rulebook) (policy : Location.Policy) :
    (place : Nat) → List RuleScript → Except Nat Rulebook
  | _, [] => .ok book
  | place, script :: later =>
    match script.rule? policy with
    | none => .error place
    | some rule => (book.add script.state rule).addScripts policy (place + 1) later

/-- The rulebook of written rules. -/
def Rulebook.ofScripts (policy : Location.Policy) (scripts : List RuleScript) :
    Except Nat Rulebook :=
  empty.addScripts policy 0 scripts

end DebugConsole
