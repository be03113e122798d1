import DebugConsole.Proofs.Session.Operations

/-!
# What a session does to its surroundings

`Surroundings.recorded` keeps the calls that are made of some surroundings beside their
state, so that what a session does to them is data. `Makes` says of an action that all
its calls are of a kind.

Output is answered by requests only, and a command is a line typed, with an interrupt in
front of it only where the program is running. So a session whose program is never seen
running interrupts it when it is asked to, and at no other time
(`Session.performAll_interrupts`).
-/

namespace DebugConsole

/-- A call that a session makes of its surroundings. -/
inductive Call where
  | request (line : String)
  | sendLine (line : String)
  | interrupt
  deriving DecidableEq

variable {World : Type}

/-- Surroundings that keep a record of the calls made so far. -/
def Surroundings.recorded (surroundings : Surroundings World) :
    Surroundings (List Call × World) where
  request line := fun (calls, world) =>
    let (answer, world) := surroundings.request line world
    (answer, calls ++ [.request line], world)
  sendLine line := fun (calls, world) =>
    let (outcome, world) := surroundings.sendLine line world
    (outcome, calls ++ [.sendLine line], world)
  interrupt := fun (calls, world) =>
    let (outcome, world) := surroundings.interrupt world
    (outcome, calls ++ [.interrupt], world)

/-- All calls that an action makes are of a kind. -/
def Makes {Value : Type} (kind : Call → Prop) (act : StateM (List Call × World) Value) : Prop :=
  ∀ calls world, ∃ made, (act (calls, world)).2.1 = calls ++ made ∧ ∀ call ∈ made, kind call

namespace Makes

variable {kind : Call → Prop} {Value Result : Type}

theorem pure (value : Value) :
    Makes kind (Pure.pure value : StateM (List Call × World) Value) :=
  fun calls _ => ⟨[], (List.append_nil calls).symm, by simp⟩

theorem bind {act : StateM (List Call × World) Value}
    {next : Value → StateM (List Call × World) Result} (first : Makes kind act)
    (second : ∀ value, Makes kind (next value)) : Makes kind (act >>= next) := by
  intro calls world
  obtain ⟨made, after, kinds⟩ := first calls world
  obtain ⟨further, last, kinds'⟩ :=
    second (act (calls, world)).1 (act (calls, world)).2.1 (act (calls, world)).2.2
  refine ⟨made ++ further, ?_, fun call member => ?_⟩
  · rw [← List.append_assoc, ← after]
    exact last
  · rcases List.mem_append.mp member with inside | inside
    · exact kinds call inside
    · exact kinds' call inside

variable {surroundings : Surroundings World}

theorem request {line : String} (allowed : kind (.request line)) :
    Makes kind (surroundings.recorded.request line) :=
  fun _ _ => ⟨[.request line], rfl, by simpa using allowed⟩

theorem sendLine {line : String} (allowed : kind (.sendLine line)) :
    Makes kind (surroundings.recorded.sendLine line) :=
  fun _ _ => ⟨[.sendLine line], rfl, by simpa using allowed⟩

/-- An action none of whose calls is a given one makes it no more often. -/
theorem count_eq {act : StateM (List Call × World) Value} {call : Call}
    (makes : Makes (· ≠ call) act) (calls : List Call) (world : World) :
    (act (calls, world)).2.1.count call = calls.count call := by
  obtain ⟨made, after, others⟩ := makes calls world
  rw [after, List.count_append, List.count_eq_zero.mpr fun member => others call member rfl,
    Nat.add_zero]

end Makes

namespace Session

variable {surroundings : Surroundings World} {kind : Call → Prop} (session : Session)

/-! ## Output is answered by requests only -/

section Requests

variable (asks : ∀ line, kind (.request line))
include asks

theorem refresh_makes : Makes kind (session.refresh surroundings.recorded) := by
  unfold refresh
  cases session.watched with
  | none => exact .pure _
  | some file =>
    refine .bind (.bind (.request (asks _)) fun _ => .pure _) fun _ => .pure _

theorem react_makes (event : Event) : Makes kind (session.react surroundings.recorded event) := by
  cases event with
  | readyForQuery => exact session.refresh_makes asks
  | jumpTo _ | resumedRunning | terminated | stalled _ => exact .pure _

theorem reactAll_makes (events : List Event) :
    Makes kind (session.reactAll surroundings.recorded events) := by
  induction events generalizing session with
  | nil => exact .pure _
  | cons event later inductionHypothesis =>
    exact .bind (session.react_makes asks event) fun _ =>
      .bind (inductionHypothesis _) fun _ => .pure _

end Requests

/-! ## Commands are typed -/

section Lines

variable (types : ∀ line, kind (.sendLine line))
include types

theorem sendLine_makes (line : String) :
    Makes kind (session.sendLine surroundings.recorded line) := by
  refine .bind (.sendLine (types line)) fun outcome => ?_
  cases outcome <;> exact .pure _

theorem send_makes (command : String) (arguments : List String) :
    Makes kind (session.send surroundings.recorded command arguments) := by
  unfold send
  cases session.debugger.format command arguments with
  | ok line => exact session.sendLine_makes types line
  | error _ => exact .pure _

end Lines

section Stopped

variable (stopped : session.state ≠ .running)
include stopped

/-- A program that is not running is not interrupted. -/
theorem interruptIfRunning_of_stopped :
    session.interruptIfRunning surroundings = pure (.ok ()) := by
  rw [interruptIfRunning, if_neg stopped]

theorem toggle_of_stopped (file : Path) (line : Nat) :
    session.toggle surroundings file line =
      sendLine surroundings { session with watched := some file }
        (session.toggleLine file line) := by
  rw [toggle, session.interruptIfRunning_of_stopped stopped]
  rfl

theorem clearAll_of_stopped :
    session.clearAll surroundings = session.send surroundings "delete_breakpoints" [] := by
  rw [clearAll, session.interruptIfRunning_of_stopped stopped]
  rfl

/-- Nothing but the operation for it interrupts a program that is not running. -/
theorem perform_makes {operation : Operation} (other : operation ≠ .interrupt) :
    Makes (· ≠ .interrupt) (session.perform surroundings.recorded operation) := by
  have asks : ∀ line, Call.request line ≠ .interrupt := nofun
  have types : ∀ line, Call.sendLine line ≠ .interrupt := nofun
  cases operation with
  | feed chunk => exact reactAll_makes _ asks _
  | watch file => exact refresh_makes _ asks
  | refresh => exact session.refresh_makes asks
  | send command arguments =>
    exact .bind (session.send_makes types command arguments) fun _ => .pure _
  | interrupt => exact absurd rfl other
  | toggle file line =>
    rw [perform, session.toggle_of_stopped stopped]
    exact .bind (sendLine_makes _ types _) fun _ => .pure _
  | clearAll =>
    rw [perform, session.clearAll_of_stopped stopped]
    exact .bind (session.send_makes types _ _) fun _ => .pure _
  | custom command =>
    exact .bind (.bind (.request (asks _)) fun _ => .pure _) fun _ => .pure _
  | finish => exact .pure _

theorem perform_interrupts (operation : Operation) (calls : List Call) (world : World) :
    (session.perform surroundings.recorded operation (calls, world)).2.1.count .interrupt =
      calls.count .interrupt + [operation].count .interrupt := by
  by_cases same : operation = .interrupt
  · subst same
    exact List.count_append
  · rw [(session.perform_makes stopped same).count_eq, List.count_singleton, if_neg (by simpa using same),
      Nat.add_zero]

end Stopped

/-- A session whose program is never seen running interrupts it as often as it is asked
to, whatever else is done with it. -/
theorem performAll_interrupts
    (never : ∀ chunks, (session.listener.feedAll chunks).2.state ≠ .running)
    (operations : List Operation) (calls : List Call) (world : World) :
    (session.performAll surroundings.recorded operations (calls, world)).2.1.count .interrupt =
      calls.count .interrupt + operations.count .interrupt := by
  induction operations generalizing session calls world with
  | nil => rfl
  | cons operation later inductionHypothesis =>
    have still : ∀ chunks, ((session.perform surroundings.recorded operation
        (calls, world)).1.2.listener.feedAll chunks).2.state ≠ .running := by
      intro chunks
      rw [perform_listener]
      cases operation.chunk? with
      | none => exact never chunks
      | some chunk => exact never (chunk :: chunks)
    rw [performAll_cons]
    refine (inductionHypothesis _ still _ _).trans ?_
    rw [session.perform_interrupts (never []), Nat.add_assoc, ← List.count_append,
      List.singleton_append]

end Session

end DebugConsole
