import DebugConsole.Session.Basic

/-!
# Exchanges with the surroundings

What passes between a session and its surroundings, as data: each request with its answer,
and each line typed and each interrupt with its outcome. `Surroundings.logged` keeps the
exchanges made so far beside the state of some surroundings, which it leaves as they are.
`Logs` says of an action that it goes alike in both, and what is logged in its course.
-/

namespace DebugConsole

/-- What passes between a session and its surroundings. -/
inductive Exchange where
  | asked (line : String) (answer : Answer)
  | typed (line : String) (outcome : Except Error Unit)
  | interrupted (outcome : Except Error Unit)

variable {World : Type}

/-- An action whose result is added to a log. -/
def logging {Value : Type} (exchange : Value → Exchange) (act : StateM World Value) :
    StateM (List Exchange × World) Value := fun (log, world) =>
  let (value, world) := act world
  (value, log ++ [exchange value], world)

/-- Surroundings that log all exchanges. -/
def Surroundings.logged (surroundings : Surroundings World) :
    Surroundings (List Exchange × World) where
  request line := logging (.asked line) (surroundings.request line)
  sendLine line := logging (.typed line) (surroundings.sendLine line)
  interrupt := logging .interrupted surroundings.interrupt

/-- An action goes alike with a log and without, whatever was logged before, and what it
gives and adds to the log are as they should be. -/
def Logs {Value : Type} (act : StateM World Value) (logged : StateM (List Exchange × World) Value)
    (right : Value → List Exchange → Prop) : Prop :=
  ∀ log world, ∃ value exchanges after, act world = (value, after) ∧
    logged (log, world) = (value, log ++ exchanges, after) ∧ right value exchanges

namespace Logs

variable {Value Result : Type} {act : StateM World Value}
  {logged : StateM (List Exchange × World) Value} {right : Value → List Exchange → Prop}

theorem pure {value : Value} (holds : right value []) :
    Logs (Pure.pure value : StateM World Value) (Pure.pure value) right :=
  fun log world => ⟨value, [], world, rfl, by rw [List.append_nil]; rfl, holds⟩

/-- One action behind another one logs behind it. -/
theorem bind {next : Value → StateM World Result}
    {nextLogged : Value → StateM (List Exchange × World) Result}
    {wanted : Result → List Exchange → Prop} (first : Logs act logged right)
    (second : ∀ value exchanges, right value exchanges →
      Logs (next value) (nextLogged value) fun result further =>
        wanted result (exchanges ++ further)) :
    Logs (act >>= next) (logged >>= nextLogged) wanted := by
  intro log world
  obtain ⟨value, exchanges, middle, acted, actedLogged, holds⟩ := first log world
  obtain ⟨result, further, after, then', thenLogged, holds'⟩ :=
    second value exchanges holds (log ++ exchanges) middle
  refine ⟨result, exchanges ++ further, after, ?_, ?_, holds'⟩
  · simp only [Bind.bind, StateT.bind, acted]
    exact then'
  · simp only [Bind.bind, StateT.bind, actedLogged]
    rw [← List.append_assoc]
    exact thenLogged

/-- A call is logged with its outcome. -/
theorem call {exchange : Value → Exchange} (holds : ∀ value, right value [exchange value]) :
    Logs act (logging exchange act) right :=
  fun _ world => ⟨(act world).1, [exchange (act world).1], (act world).2, rfl, rfl, holds _⟩

end Logs

end DebugConsole
