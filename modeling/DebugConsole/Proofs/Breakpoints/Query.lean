import DebugConsole.Breakpoints.Query

/-!
# What a query leaves behind

A query makes one request, and its outcome says what is learned: the breakpoints of the
file, those being none for a malformed reply, or nothing at all. Only the file that was
asked for is concerned (`BreakpointStore.get?_learn`).
-/

namespace DebugConsole

/-- The breakpoints that the outcome of a query tells. -/
def learned? : Except QueryFault Breakpoints → Option Breakpoints
  | .ok breakpoints => some breakpoints
  | .error (.malformed _) => some .empty
  | .error (.reported _) | .error (.channel _) => none

namespace BreakpointStore

theorem learn_eq (store : BreakpointStore) (file : Path)
    (outcome : Except QueryFault Breakpoints) :
    store.learn file outcome = (learned? outcome).elim store (store.set file) := by
  rcases outcome with (_ | _ | _) | _ <;> rfl

/-- What is known of a file after a query for one: what the outcome tells, if they are the
same and it tells something, and otherwise what was known before. -/
theorem get?_learn (store : BreakpointStore) (file other : Path)
    (outcome : Except QueryFault Breakpoints) :
    (store.learn file outcome).get? other =
      (if file.same other then learned? outcome else none).or (store.get? other) := by
  rw [learn_eq]
  cases learned? outcome with
  | none => simp
  | some breakpoints =>
    rw [Option.elim_some, get?_set]
    split <;> simp

variable {World : Type} {request : String → StateM World Answer} {file : Path}
  {world after : World} {answer : Answer}

/-- A query makes its request and stores what the answer says. -/
theorem query_eq (answered : request (Breakpoints.request file) world = (answer, after))
    (store : BreakpointStore) :
    store.query request file world =
      ((answer.breakpoints, store.learn file answer.breakpoints), after) := by
  simp only [query, bind, StateT.bind, answered]
  rfl

end BreakpointStore

end DebugConsole
