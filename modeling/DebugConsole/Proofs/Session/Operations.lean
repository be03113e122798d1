import DebugConsole.Proofs.Breakpoints.Query
import DebugConsole.Session.Basic

/-!
# Operations of a session

All that can be done with a session, as data, so that a run is a list of operations.
Only feeding reaches the listener: `Session.performAll_listener` says that it is where
the chunks fed have led it, whatever else was done in between and whatever the
surroundings did.
-/

namespace DebugConsole.Session

/-- What can be done with a session. -/
inductive Operation where
  | feed (chunk : List UInt8)
  | watch (file : Path)
  | refresh
  | send (command : String) (arguments : List String)
  | interrupt
  | toggle (file : Path) (line : Nat)
  | clearAll
  | custom (command : String)
  | finish
  deriving DecidableEq

variable {World : Type} (surroundings : Surroundings World)

/-- Performs an operation: what the editor is told, and the session afterwards. -/
def perform (session : Session) : Operation → StateM World (List Note × Session)
  | .feed chunk => session.feed surroundings chunk
  | .watch file => session.watch surroundings file
  | .refresh => session.refresh surroundings
  | .send command arguments => do
    return ([], (← session.send surroundings command arguments).2)
  | .interrupt => do
    let _ ← surroundings.interrupt
    return ([], session)
  | .toggle file line => do return ([], (← session.toggle surroundings file line).2)
  | .clearAll => do return ([], (← session.clearAll surroundings).2)
  | .custom command => do
    let _ ← custom surroundings command
    return ([], session)
  | .finish => return ([], session.finish)

/-- Performs operations one after the other: what the editor is told by each, and the
session after all of them. -/
def performAll (session : Session) : List Operation → StateM World (List (List Note) × Session)
  | [] => return ([], session)
  | operation :: later => do
    let (notes, performed) ← session.perform surroundings operation
    let (further, last) ← performed.performAll later
    return (notes :: further, last)

variable {surroundings}

theorem performAll_cons (session : Session) (operation : Operation) (later : List Operation)
    (world : World) :
    session.performAll surroundings (operation :: later) world =
      let first := session.perform surroundings operation world
      let rest := first.1.2.performAll surroundings later first.2
      ((first.1.1 :: rest.1.1, rest.1.2), rest.2) := rfl

theorem performAll_append (session : Session) (operations later : List Operation)
    (world : World) :
    session.performAll surroundings (operations ++ later) world =
      let first := session.performAll surroundings operations world
      let rest := first.1.2.performAll surroundings later first.2
      ((first.1.1 ++ rest.1.1, rest.1.2), rest.2) := by
  induction operations generalizing session world with
  | nil => rfl
  | cons operation operations inductionHypothesis =>
    rw [List.cons_append, performAll_cons]
    dsimp only
    rw [inductionHypothesis]
    rfl

theorem reactAll_cons (session : Session) (event : Event) (later : List Event) (world : World) :
    session.reactAll surroundings (event :: later) world =
      let first := session.react surroundings event world
      let rest := first.1.2.reactAll surroundings later first.2
      ((first.1.1 ++ rest.1.1, rest.1.2), rest.2) := rfl

/-- Refreshing tells and stores the outcome of a query for the watched file. -/
theorem refresh_eq {session : Session} {file : Path} {world after : World}
    {outcome : Except QueryFault Breakpoints} {store : BreakpointStore}
    (watched : session.watched = some file)
    (queried : session.store.query surroundings.request file world = ((outcome, store), after)) :
    session.refresh surroundings world =
      ((queryNotes file outcome, { session with store := store }), after) := by
  simp only [refresh, watched, bind, StateT.bind, queried]
  rfl

/-! ## What an operation leaves as it was -/

/-- Only the file that is shown and the last line typed may differ. -/
def Commanded (session after : Session) : Prop :=
  ∃ watched lastCommand, after = { session with watched := watched, lastCommand := lastCommand }

/-- Only the breakpoints known and the file that is shown may differ. -/
def Informed (session after : Session) : Prop :=
  ∃ store watched, after = { session with store := store, watched := watched }

theorem Commanded.listener {session after : Session} (commanded : session.Commanded after) :
    after.listener = session.listener := by
  obtain ⟨_, _, rfl⟩ := commanded
  rfl

theorem Commanded.store {session after : Session} (commanded : session.Commanded after) :
    after.store = session.store := by
  obtain ⟨_, _, rfl⟩ := commanded
  rfl

theorem Informed.listener {session after : Session} (informed : session.Informed after) :
    after.listener = session.listener := by
  obtain ⟨_, _, rfl⟩ := informed
  rfl

theorem Informed.trans {session middle after : Session} (first : session.Informed middle)
    (second : middle.Informed after) : session.Informed after := by
  obtain ⟨_, _, rfl⟩ := first
  obtain ⟨store, watched, rfl⟩ := second
  exact ⟨store, watched, rfl⟩

variable (session : Session) (world : World)

theorem sendLine_commanded (line : String) :
    session.Commanded (session.sendLine surroundings line world).1.2 := by
  unfold sendLine
  simp only [bind, StateT.bind]
  split
  split
  · exact ⟨session.watched, some line, rfl⟩
  · exact ⟨session.watched, session.lastCommand, rfl⟩

theorem send_commanded (command : String) (arguments : List String) :
    session.Commanded (session.send surroundings command arguments world).1.2 := by
  unfold send
  cases session.debugger.format command arguments with
  | ok line => exact session.sendLine_commanded world line
  | error _ => exact ⟨session.watched, session.lastCommand, rfl⟩

theorem toggle_commanded (file : Path) (line : Nat) :
    session.Commanded (session.toggle surroundings file line world).1.2 := by
  unfold toggle
  simp only [bind, StateT.bind]
  split
  split
  · exact ⟨session.watched, session.lastCommand, rfl⟩
  · exact sendLine_commanded { session with watched := some file } _ (session.toggleLine file line)

theorem clearAll_commanded : session.Commanded (session.clearAll surroundings world).1.2 := by
  unfold clearAll
  simp only [bind, StateT.bind]
  split
  split
  · exact ⟨session.watched, session.lastCommand, rfl⟩
  · exact session.send_commanded _ _ _

theorem refresh_informed : session.Informed (session.refresh surroundings world).1.2 := by
  unfold refresh
  cases session.watched with
  | none => exact ⟨session.store, session.watched, rfl⟩
  | some file => exact ⟨_, some file, rfl⟩

theorem react_informed (event : Event) :
    session.Informed (session.react surroundings event world).1.2 := by
  cases event with
  | jumpTo location => exact ⟨session.store, some location.file, rfl⟩
  | readyForQuery => exact session.refresh_informed world
  | resumedRunning | terminated | stalled _ => exact ⟨session.store, session.watched, rfl⟩

theorem reactAll_informed (events : List Event) :
    session.Informed (session.reactAll surroundings events world).1.2 := by
  induction events generalizing session world with
  | nil => exact ⟨session.store, session.watched, rfl⟩
  | cons event later inductionHypothesis =>
    rw [reactAll_cons]
    have first : session.Informed (session.react surroundings event world).1.2 :=
      session.react_informed world event
    exact first.trans (inductionHypothesis _ _)

/-! ## What becomes of the listener -/

/-- The chunk that an operation feeds. -/
def Operation.chunk? : Operation → Option (List UInt8)
  | .feed chunk => some chunk
  | _ => none

theorem perform_listener (operation : Operation) :
    (session.perform surroundings operation world).1.2.listener =
      (session.listener.feedAll operation.chunk?.toList).2 := by
  cases operation with
  | feed chunk =>
    exact (reactAll_informed { session with listener := (session.listener.feed chunk).2 } world
      (session.listener.feed chunk).1).listener
  | watch file => exact (refresh_informed { session with watched := some file } world).listener
  | refresh => exact (session.refresh_informed world).listener
  | send command arguments => exact (session.send_commanded world command arguments).listener
  | toggle file line => exact (session.toggle_commanded world file line).listener
  | clearAll => exact (session.clearAll_commanded world).listener
  | interrupt | custom _ | finish => rfl

/-- A session's listener is where the chunks fed have led it. -/
theorem performAll_listener (operations : List Operation) :
    (session.performAll surroundings operations world).1.2.listener =
      (session.listener.feedAll (operations.filterMap Operation.chunk?)).2 := by
  induction operations generalizing session world with
  | nil => rfl
  | cons operation later inductionHypothesis =>
    rw [performAll_cons]
    dsimp only
    rw [inductionHypothesis, perform_listener]
    cases fed : operation.chunk? with
    | none => simp only [Option.toList_none, List.filterMap_cons_none fed, Listener.feedAll]
    | some chunk =>
      simp only [Option.toList_some, List.filterMap_cons_some fed, Listener.feedAll]

end DebugConsole.Session
