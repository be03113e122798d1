import DebugConsole.Session.Basic

/-!
# Rehearsed surroundings

Surroundings without a debugger behind them: the channel answers from a queue, and
the terminal remembers what it was given. They serve to run a session by a script.
-/

namespace DebugConsole

/-- The state of rehearsed surroundings. -/
structure Rehearsal where
  /-- The answers to come. -/
  answers : List Answer
  /-- The requests made so far. -/
  requests : List String
  /-- The lines typed so far. -/
  typed : List String
  /-- The interrupts so far. -/
  interrupts : Nat
  /-- Whether there is a channel at all. -/
  connected : Bool
  /-- Whether lines are refused. -/
  refusesLines : Bool
  /-- Whether interrupts are refused. -/
  refusesInterrupts : Bool

namespace Rehearsal

/-- Nothing has happened yet, and no answer is prepared. -/
def fresh : Rehearsal := ⟨[], [], [], 0, true, false, false⟩

/-- Prepares the answer to a later request. -/
def prepare (rehearsal : Rehearsal) (answer : Answer) : Rehearsal :=
  { rehearsal with answers := rehearsal.answers ++ [answer] }

/-- Takes the next prepared answer; there is silence once all are used up. -/
def request (line : String) : StateM Rehearsal Answer := fun rehearsal =>
  if rehearsal.connected then
    (rehearsal.answers.head?.getD .silence,
      { rehearsal with
        answers := rehearsal.answers.tail
        requests := rehearsal.requests ++ [line] })
  else (.silence, rehearsal)

/-- Remembers a line unless lines are refused. -/
def sendLine (line : String) : StateM Rehearsal (Except Error Unit) := fun rehearsal =>
  if rehearsal.refusesLines then (.error (.terminal ("cannot send " ++ line)), rehearsal)
  else (.ok (), { rehearsal with typed := rehearsal.typed ++ [line] })

/-- Counts an interrupt unless interrupts are refused. -/
def interrupt : StateM Rehearsal (Except Error Unit) := fun rehearsal =>
  if rehearsal.refusesInterrupts then (.error (.terminal "cannot interrupt"), rehearsal)
  else (.ok (), { rehearsal with interrupts := rehearsal.interrupts + 1 })

/-- The surroundings that act on a rehearsal. -/
def surroundings : Surroundings Rehearsal := ⟨request, sendLine, interrupt⟩

end Rehearsal

end DebugConsole
