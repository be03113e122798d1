import DebugConsole.Scenario.Check
import DebugConsole.Session.Rehearsal

/-!
# Running scenarios

A scenario is run on a session with rehearsed surroundings, step by step, until a step
fails or does not meet what is expected of it. `Scenario.run` reports how far it got
and what is printed on the way.
-/

namespace DebugConsole

/-- What a step came to. -/
structure StepOutcome where
  /-- What the editor was told. -/
  notes : List Note
  /-- Why the step failed, if it did. -/
  fault : Option Error
  /-- What there is to say of the step if it went well. -/
  summary : String

namespace ScenarioStep

/-- An unmet expectation as an error. -/
def unmet (mismatch : StepMismatch) : Error := .expectation mismatch.message

/-- Runs a command and compares what it did with what is expected. -/
def command (act : StateM Rehearsal (Except Error Unit × Session))
    (expected : Option CommandExpectation) (summary : Session → String) :
    StateM Rehearsal (StepOutcome × Session) := do
  let before ← get
  let (outcome, session) ← act
  let after ← get
  let fault :=
    match outcome with
    | .error error => some error
    | .ok () =>
      expected.bind fun expectation =>
        (expectation.mismatch? (after.typed.getLast?.getD "")
          (before.interrupts < after.interrupts)).map unmet
  return (⟨[], fault, summary session⟩, session)

/-- Performs a step. -/
def perform (session : Session) : ScenarioStep → StateM Rehearsal (StepOutcome × Session)
  | .feed output expected => do
    let (notes, session) ← session.feed Rehearsal.surroundings (Utf8.encode output.toList)
    let mismatch := expected.bind (·.mismatch? notes session.state)
    return (⟨notes, mismatch.map unmet,
      s!"feed ({notes.length} event(s), {session.state.name})"⟩, session)
  | .respond reply => do
    modify (·.prepare (reply.elim .silence .text))
    return (⟨[], none, "respond"⟩, session)
  | .toggle file line expected =>
    command (session.toggle Rehearsal.surroundings file line) expected fun _ =>
      "toggle " ++ Location.text ⟨file, line⟩
  | .send name arguments expected =>
    command (session.send Rehearsal.surroundings name arguments) expected fun session =>
      "send " ++ session.lastCommand.getD ""

end ScenarioStep

/-- How far a scenario got. -/
structure ScenarioReport where
  name : String
  /-- The number of steps that were performed. -/
  performed : Nat
  /-- The number of steps that there are. -/
  total : Nat
  /-- Why the last step performed failed, if it did. -/
  fault : Option Error
  /-- What is printed on the way. -/
  printed : String

/-- Whether every step was performed and met what was expected. -/
def ScenarioReport.passed (report : ScenarioReport) : Bool := report.fault.isNone

namespace Scenario

/-- The lines for a step: those for its notes, if they are to be shown, and one that
tells how it went. -/
def stepText (showNotes : Bool) (position : Nat) (outcome : StepOutcome) : String :=
  let notes := if showNotes then outcome.notes.map fun note => "      " ++ note.text else []
  let verdict :=
    match outcome.fault with
    | none => s!"  ✓ Step {position}: {outcome.summary}\n"
    | some error => s!"  ✗ Step {position}: " ++ error.message ++ "\n"
  String.join notes ++ verdict

/-- Performs steps from a given position on until one fails. Gives the number of steps
performed in all, the failure, and the text for the steps after an earlier one. -/
def runSteps (showNotes : Bool) (performed : Nat) (printed : String) (session : Session) :
    List ScenarioStep → StateM Rehearsal (Nat × Option Error × String)
  | [] => return (performed, none, printed)
  | step :: later => do
    let (outcome, session) ← step.perform session
    let printed := printed ++ stepText showNotes (performed + 1) outcome
    match outcome.fault with
    | some error => return (performed + 1, some error, printed)
    | none => runSteps showNotes (performed + 1) printed session later

/-- What is printed before the steps. -/
def heading (scenario : Scenario) : String :=
  "\nRunning Test: " ++ scenario.name ++ "\n" ++
    (scenario.description.elim "" fun description => "  " ++ description ++ "\n") ++ "\nSteps:\n"

/-- Runs a scenario in fresh surroundings. -/
def run (showNotes : Bool) (scenario : Scenario) : ScenarioReport :=
  let session := Session.start scenario.debugger scenario.options
  let (performed, fault, printed) :=
    ((runSteps showNotes 0 scenario.heading session scenario.steps).run Rehearsal.fresh).1
  let ending := if fault.isNone then "\n✓ Test Passed\n\n" else ""
  ⟨scenario.name, performed, scenario.steps.length, fault, printed ++ ending⟩

end Scenario

end DebugConsole
