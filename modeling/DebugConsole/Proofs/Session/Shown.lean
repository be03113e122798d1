import DebugConsole.Proofs.Session.Operations

/-!
# What the editor shows

A session tells its editor of every change to the breakpoints that it knows, and tells
nothing else. So the breakpoints known of a file are those last told of it since the
session was ended, if any were (`Session.get?_store_eq_lastTold`), whatever the channel
and the terminal did.
-/

namespace DebugConsole

/-- The breakpoints that a note tells of a file. -/
def Note.update? (file : Path) : Note → Option Breakpoints
  | .breakpointsUpdated path breakpoints => if path.same file then some breakpoints else none
  | _ => none

/-- The breakpoints last told of a file. -/
def lastTold? (file : Path) (notes : List Note) : Option Breakpoints :=
  (notes.filterMap (Note.update? file)).getLast?

@[simp] theorem lastTold?_append (file : Path) (notes later : List Note) :
    lastTold? file (notes ++ later) = (lastTold? file later).or (lastTold? file notes) := by
  simp [lastTold?]

@[simp] theorem lastTold?_nil (file : Path) : lastTold? file [] = none := rfl

@[simp] theorem lastTold?_singleton (file : Path) (note : Note) :
    lastTold? file [note] = note.update? file := by
  cases told : note.update? file <;> simp [lastTold?, told]

namespace Session

variable {World : Type} {surroundings : Surroundings World}

/-- What is known of each file after something was told: what was told last of it, and
otherwise what was known before. -/
def Tells (session : Session) (notes : List Note) (after : Session) : Prop :=
  ∀ file, after.store.get? file = (lastTold? file notes).or (session.store.get? file)

theorem Tells.append {session middle after : Session} {notes later : List Note}
    (first : session.Tells notes middle) (second : middle.Tells later after) :
    session.Tells (notes ++ later) after := by
  intro file
  rw [second file, first file, lastTold?_append, Option.or_assoc]

theorem tells_nil {session after : Session} (same : after.store = session.store) :
    session.Tells [] after := by
  intro file
  rw [same, lastTold?_nil, Option.none_or]

variable (session : Session) (world : World)

/-- A query tells what it stores: all of it, or nothing. -/
theorem learn_tells (file : Path) (outcome : Except QueryFault Breakpoints) :
    session.Tells (queryNotes file outcome)
      { session with store := session.store.learn file outcome } := by
  intro other
  rcases outcome with (malformed | reported | channel) | breakpoints
  all_goals simp [queryNotes, BreakpointStore.learn, Note.update?]
  all_goals split <;> simp

theorem refresh_tells :
    session.Tells (session.refresh surroundings world).1.1
      (session.refresh surroundings world).1.2 := by
  unfold refresh
  cases session.watched with
  | none => exact tells_nil rfl
  | some file => exact session.learn_tells file _

theorem react_tells (event : Event) :
    session.Tells (session.react surroundings event world).1.1
      (session.react surroundings event world).1.2 := by
  cases event with
  | readyForQuery => exact session.refresh_tells world
  | jumpTo _ | resumedRunning | terminated | stalled _ => exact tells_nil rfl

theorem reactAll_tells (events : List Event) :
    session.Tells (session.reactAll surroundings events world).1.1
      (session.reactAll surroundings events world).1.2 := by
  induction events generalizing session world with
  | nil => exact tells_nil rfl
  | cons event later inductionHypothesis =>
    rw [reactAll_cons]
    exact (session.react_tells world event).append (inductionHypothesis _ _)

/-- Whatever is done but ending the session, the editor is told of it. -/
theorem perform_tells {operation : Operation} (going : operation ≠ .finish) :
    session.Tells (session.perform surroundings operation world).1.1
      (session.perform surroundings operation world).1.2 := by
  cases operation with
  | feed chunk =>
    exact reactAll_tells { session with listener := (session.listener.feed chunk).2 } world _
  | watch file => exact refresh_tells { session with watched := some file } world
  | refresh => exact session.refresh_tells world
  | send command arguments => exact tells_nil (session.send_commanded world command arguments).store
  | toggle file line => exact tells_nil (session.toggle_commanded world file line).store
  | clearAll => exact tells_nil (session.clearAll_commanded world).store
  | interrupt | custom _ => exact tells_nil rfl
  | finish => exact absurd rfl going

/-- Adds what an operation told to what was told before; ending a session starts anew. -/
def account (earlier : List Note) (entry : Operation × List Note) : List Note :=
  if entry.1 = .finish then [] else earlier ++ entry.2

/-- What the editor was told since the session was last ended. -/
def sinceFinish (transcript : List (Operation × List Note)) : List Note :=
  transcript.foldl account []

theorem perform_account {earlier : List Note}
    (known : ∀ file, session.store.get? file = lastTold? file earlier) (operation : Operation)
    (file : Path) :
    (session.perform surroundings operation world).1.2.store.get? file =
      lastTold? file
        (account earlier (operation, (session.perform surroundings operation world).1.1)) := by
  by_cases ended : operation = .finish
  · subst ended
    rfl
  · -- What is told now counts before what was told earlier, as in the store.
    rw [account, if_neg ended, lastTold?_append, ← known file]
    exact session.perform_tells world ended file

theorem performAll_account {earlier : List Note}
    (known : ∀ file, session.store.get? file = lastTold? file earlier)
    (operations : List Operation) (file : Path) :
    (session.performAll surroundings operations world).1.2.store.get? file =
      lastTold? file ((operations.zip
        (session.performAll surroundings operations world).1.1).foldl account earlier) := by
  induction operations generalizing session world earlier with
  | nil => exact known file
  | cons operation later inductionHypothesis =>
    rw [performAll_cons]
    exact inductionHypothesis _ _ fun other => session.perform_account world known operation other

/-- What the editor shows is what the session believes. Whatever is done with a session,
and whatever its channel and its terminal do, the breakpoints known of a file are those
that the editor was last told of a path equal to it since the session was started or
ended, and none are known if it was told of none. -/
theorem get?_store_eq_lastTold (surroundings : Surroundings World) (debugger : Debugger)
    (options : Debugger.Options) (operations : List Operation) (world : World) (file : Path) :
    let run := (start debugger options).performAll surroundings operations world
    run.1.2.store.get? file = lastTold? file (sinceFinish (operations.zip run.1.1)) :=
  (start debugger options).performAll_account world (fun _ => rfl) operations file

end Session

end DebugConsole
