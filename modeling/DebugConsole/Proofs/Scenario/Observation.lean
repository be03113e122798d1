import DebugConsole.Proofs.Scenario.Expectations
import DebugConsole.Proofs.Session.Dispatch
import DebugConsole.Scenario.Run

/-!
# What is observed of a step

What a step of a scenario does is observed in a scene of its own: the notes of that very
step, and what passed between the session and its surroundings in its course. A rehearsal
keeps the lines typed and counts the interrupts from one step to the next, but what it
shows of a step is what is observed of it, and the fault of the step is judged by that
(`ScenarioStep.perform_judged`).
-/

namespace DebugConsole

/-! ## What a rehearsal remembers -/

/-- Whether the program was interrupted. -/
def Exchange.stops : Exchange → Bool
  | .interrupted (.ok ()) => true
  | .interrupted (.error _) | .typed _ _ | .asked _ _ => false

namespace Rehearsal

/-- A rehearsal has kept the lines taken since an earlier one, and has counted the
interrupts. -/
structure Remembers (before : Rehearsal) (state : List Exchange × Rehearsal) : Prop where
  typed : state.2.typed = before.typed ++ state.1.filterMap Exchange.taken?
  interrupts : state.2.interrupts = before.interrupts + state.1.countP Exchange.stops

theorem Remembers.start (before : Rehearsal) : before.Remembers ([], before) :=
  ⟨(List.append_nil before.typed).symm, rfl⟩

/-- An action behind which a rehearsal still remembers. -/
def Keeps {Value : Type} (before : Rehearsal)
    (act : StateM (List Exchange × Rehearsal) Value) : Prop :=
  ∀ state, before.Remembers state → before.Remembers (act state).2

namespace Keeps

variable {before : Rehearsal} {Value Result : Type}

theorem pure (value : Value) :
    before.Keeps (Pure.pure value : StateM (List Exchange × Rehearsal) Value) :=
  fun _ remembers => remembers

theorem bind {act : StateM (List Exchange × Rehearsal) Value}
    {next : Value → StateM (List Exchange × Rehearsal) Result} (first : before.Keeps act)
    (second : ∀ value, before.Keeps (next value)) : before.Keeps (act >>= next) :=
  fun state remembers => second _ _ (first state remembers)

/-- A call is logged as it is remembered. -/
theorem logging {act : StateM Rehearsal Value} {exchange : Value → Exchange}
    (typed : ∀ rehearsal, (act rehearsal).2.typed =
      rehearsal.typed ++ (exchange (act rehearsal).1).taken?.toList)
    (interrupts : ∀ rehearsal, (act rehearsal).2.interrupts =
      rehearsal.interrupts + (exchange (act rehearsal).1).stops.toNat) :
    before.Keeps (DebugConsole.logging exchange act) := by
  intro (log, rehearsal) remembers
  refine ⟨?_, ?_⟩
  · have added : (act rehearsal).2.typed =
        before.typed ++ (log ++ [exchange (act rehearsal).1]).filterMap Exchange.taken? := by
      rw [typed, remembers.typed, List.filterMap_append, List.append_assoc]
      cases told : (exchange (act rehearsal).1).taken? <;> simp [told]
    exact added
  · have added : (act rehearsal).2.interrupts =
        before.interrupts + (log ++ [exchange (act rehearsal).1]).countP Exchange.stops := by
      rw [interrupts, remembers.interrupts, List.countP_append, Nat.add_assoc,
        List.countP_singleton]
      cases (exchange (act rehearsal).1).stops <;> rfl
    exact added

theorem sendLine (line : String) : before.Keeps (surroundings.logged.sendLine line) := by
  refine .logging (fun rehearsal => ?_) fun rehearsal => ?_
  · unfold surroundings Rehearsal.sendLine
    dsimp only
    split <;> simp [Exchange.taken?]
  · unfold surroundings Rehearsal.sendLine
    dsimp only
    split <;> rfl

theorem interrupt : before.Keeps surroundings.logged.interrupt := by
  refine .logging (fun rehearsal => ?_) fun rehearsal => ?_
  · unfold surroundings Rehearsal.interrupt
    dsimp only
    split <;> simp [Exchange.taken?]
  · unfold surroundings Rehearsal.interrupt
    dsimp only
    split <;> rfl

/-- All that a command does is remembered. -/
theorem act (command : Command) (session : Session) :
    before.Keeps (command.act surroundings.logged session) := by
  have first : before.Keeps (command.interruptFirst surroundings.logged session) := by
    unfold Command.interruptFirst
    split
    · exact interrupt
    · exact .pure _
  rw [Command.act_eq]
  refine first.bind fun outcome => ?_
  cases outcome with
  | error error => exact .pure _
  | ok _ =>
    simp only [Command.type]
    cases command.line? session with
    | error error => exact .pure _
    | ok line =>
      refine (Keeps.sendLine line).bind fun outcome => ?_
      cases outcome <;> exact .pure _

end Keeps

end Rehearsal

/-! ## What is observed of a step -/

/-- A session and the surroundings in which it is rehearsed. -/
structure Scene where
  session : Session
  rehearsal : Rehearsal

/-- What is observed of a step: what the editor was told, what passed between the session
and its surroundings, whether the operation went well, and the scene afterwards. -/
structure Observation where
  notes : List Note
  exchanges : List Exchange
  outcome : Except Error Unit
  after : Scene

/-- What is observed of a command. -/
def Command.observe (command : Command) (scene : Scene) : Observation :=
  let run := command.act Rehearsal.surroundings.logged scene.session ([], scene.rehearsal)
  ⟨[], run.2.1, run.1.1, ⟨run.1.2, run.2.2⟩⟩

namespace ScenarioStep

/-- What is observed of a step in a scene. -/
def observe (scene : Scene) : ScenarioStep → Observation
  | .feed output _ =>
    let run := scene.session.feed Rehearsal.surroundings.logged (Utf8.encode output.toList)
      ([], scene.rehearsal)
    ⟨run.1.1, run.2.1, .ok (), ⟨run.1.2, run.2.2⟩⟩
  | .respond reply =>
    ⟨[], [], .ok (), ⟨scene.session, scene.rehearsal.prepare (reply.elim .silence .text)⟩⟩
  | .toggle file line _ => Command.observe (.toggle file line) scene
  | .send name arguments _ => Command.observe (.send name arguments) scene

/-- What is observed meets what is expected of a step, if anything is. -/
def MetBy (observation : Observation) : ScenarioStep → Prop
  | .feed _ expected => ∀ expectation ∈ expected,
      expectation.MetBy observation.notes observation.after.session.state
  | .respond _ => True
  | .toggle _ _ expected | .send _ _ expected => ∀ expectation ∈ expected,
      expectation.MetBy observation.exchanges

/-- How what is observed differs from what is expected of a step. -/
def Differs (observation : Observation) : ScenarioStep → StepMismatch → Prop
  | .feed _ expected, mismatch => ∃ expectation ∈ expected,
      expectation.Differs observation.notes observation.after.session.state mismatch
  | .respond _, _ => False
  | .toggle _ _ expected, mismatch | .send _ _ expected, mismatch => ∃ expectation ∈ expected,
      expectation.Differs observation.exchanges mismatch

/-- A step passes in a scene: its operation goes well and meets what is expected. -/
def Passes (scene : Scene) (step : ScenarioStep) : Prop :=
  (step.observe scene).outcome = .ok () ∧ step.MetBy (step.observe scene)

variable {scene : Scene} {step : ScenarioStep}

theorem Differs.not_metBy {observation : Observation} {mismatch : StepMismatch}
    (differs : step.Differs observation mismatch) : ¬ step.MetBy observation := by
  intro met
  cases step with
  | respond reply => exact differs
  | feed output expected =>
    obtain ⟨expectation, given, differs⟩ := differs
    exact differs.not_metBy (met expectation given)
  | toggle _ _ expected | send _ _ expected =>
    obtain ⟨expectation, given, differs⟩ := differs
    exact differs.not_metBy (met expectation given)

section Commands

variable {act : StateM Rehearsal (Except Error Unit × Session)} {rehearsal after : Rehearsal}
  {session : Session} (expected : Option CommandExpectation) (summary : Session → String)

end Commands

end ScenarioStep

end DebugConsole
