import DebugConsole.Invocation.Run
import DebugConsole.Proofs.Scenario.Observation

/-!
# Verdicts of scenarios

Steps are performed one after the other, each in the scene to which those in front of it
lead. A scenario passes if and only if every step passes there, and otherwise it ends with
the first step that does not (`Invocation.runScenario_verdict`).
-/

namespace DebugConsole

namespace ScenarioStep

/-! ## What is printed of a step -/

end ScenarioStep

/-! ## Runs -/

namespace Scene

/-- The scene to which steps lead one after the other. -/
def after (scene : Scene) (steps : List ScenarioStep) : Scene :=
  steps.foldl (fun scene step => (step.observe scene).after) scene

variable {scene : Scene} {step : ScenarioStep} {steps later : List ScenarioStep}

end Scene

namespace Scenario

variable (showNotes : Bool) (performed : Nat) (printed : String) {scene : Scene}
  {step : ScenarioStep}

/-- The scene in which a scenario starts: a fresh session and fresh surroundings. -/
def opening (scenario : Scenario) : Scene :=
  ⟨Session.start scenario.debugger scenario.options, Rehearsal.fresh⟩

/-- What is printed at the end of a scenario that passes. -/
def ending : String := "\n✓ Test Passed\n\n"

theorem run_eq {showNotes : Bool} {scenario : Scenario} {performed : Nat} {fault : Option Error}
    {printed : String} {rehearsal : Rehearsal}
    (ran : runSteps showNotes 0 scenario.heading scenario.opening.session scenario.steps
      scenario.opening.rehearsal = ((performed, fault, printed), rehearsal)) :
    scenario.run showNotes =
      ⟨scenario.name, performed, scenario.steps.length, fault,
        printed ++ if fault.isNone then ending else ""⟩ := by
  have first : (runSteps showNotes 0 scenario.heading
      (Session.start scenario.debugger scenario.options) scenario.steps).run Rehearsal.fresh =
        ((performed, fault, printed), rehearsal) := ran
  simp only [run, first]
  rfl

end Scenario

namespace Invocation

end Invocation

end DebugConsole
