import DebugConsole.Proofs.Breakpoints.Listing
import DebugConsole.Proofs.Session.Exchanges

/-!
# The store replays its history

A `BreakpointStore.Step` is an operation on a store or its channel together with the answer
that came for it. What is known of a file after any operations is what the latest query
for a path equal to it told, of those that told something and since the store was last
reset (`BreakpointStore.get?_eq_latest`). Each query makes one request, for its own file,
and changes nothing else.
-/

namespace DebugConsole.BreakpointStore

/-- What can be done with a store and with the channel that it learns from. -/
inductive Operation where
  | query (file : Path)
  | raw (line : String)
  | reset

variable {World : Type}

/-- Performs an operation: what came of it if it was a query, and the store afterwards. -/
def perform (request : String → StateM World Answer) (store : BreakpointStore) :
    Operation → StateM World (Option (Except QueryFault Breakpoints) × BreakpointStore)
  | .query file => do
    let (outcome, store) ← store.query request file
    return (some outcome, store)
  | .raw line => do
    let _ ← request line
    return (none, store)
  | .reset => return (none, .empty)

/-- Performs operations one after the other: what came of each, and the store after all
of them. -/
def performAll (request : String → StateM World Answer) (store : BreakpointStore) :
    List Operation → StateM World (List (Option (Except QueryFault Breakpoints)) × BreakpointStore)
  | [] => return ([], store)
  | operation :: later => do
    let (outcome, store) ← store.perform request operation
    let (further, store) ← store.performAll request later
    return (outcome :: further, store)

/-- An operation and the answer that came for it. -/
inductive Step where
  | query (file : Path) (answer : Answer)
  | raw (line : String) (answer : Answer)
  | reset

namespace Step

def operation : Step → Operation
  | .query file _ => .query file
  | .raw line _ => .raw line
  | .reset => .reset

/-- What passes between the store and its channel. -/
def exchanges : Step → List Exchange
  | .query file answer => [.asked ("info-breakpoints " ++ file.text ++ "\n") answer]
  | .raw line answer => [.asked line answer]
  | .reset => []

def outcome? : Step → Option (Except QueryFault Breakpoints)
  | .query _ answer => some answer.breakpoints
  | .raw _ _ | .reset => none

/-- What a step tells of a file. -/
def told? (file : Path) : Step → Option Breakpoints
  | .query path answer => if path.same file then learned? answer.breakpoints else none
  | .raw _ _ | .reset => none

def isReset : Step → Bool
  | .reset => true
  | .query _ _ | .raw _ _ => false

/-- The store after a step. -/
def after (store : BreakpointStore) : Step → BreakpointStore
  | .query file answer => store.learn file answer.breakpoints
  | .raw _ _ => store
  | .reset => .empty

/-- A step forgets everything if it is a reset. What it tells of a file takes the place of
what was known. -/
theorem get?_after (store : BreakpointStore) (step : Step) (file : Path) :
    (step.after store).get? file =
      if step.isReset then none else (step.told? file).or (store.get? file) := by
  cases step with
  | query path answer => exact get?_learn store path file answer.breakpoints
  | raw line answer => rfl
  | reset => rfl

end Step

/-- The latest step that told something of a file, of those since the last reset. -/
def latest? (file : Path) (history : List Step) : Option Step :=
  ((history.rtakeWhile (!·.isReset)).filter fun step => (step.told? file).isSome).getLast?

theorem latest?_concat (file : Path) (history : List Step) (step : Step) :
    latest? file (history ++ [step]) =
      if step.isReset then none
      else if (step.told? file).isSome then some step else latest? file history := by
  unfold latest?
  rw [List.rtakeWhile_concat]
  cases step.isReset with
  | true => rfl
  | false =>
    cases told : step.told? file with
    | none => simp [told]
    | some breakpoints => simp [told]

/-- After steps on an empty store, what is known of a file is what the latest told of it. -/
theorem get?_foldl_after (history : List Step) (file : Path) :
    (history.foldl Step.after .empty).get? file =
      (latest? file history).bind (Step.told? file) := by
  induction history using List.reverseRecOn with
  | nil => rfl
  | append_singleton history step inductionHypothesis =>
    rw [List.foldl_append, List.foldl_cons, List.foldl_nil, Step.get?_after, latest?_concat,
      inductionHypothesis]
    cases step.isReset with
    | true => rfl
    | false =>
      cases told : step.told? file with
      | none => simp
      | some breakpoints => simp [told]

/-- The latest step that told something was a query for a path equal to the file. -/
theorem told?_of_latest {file path : Path} {history : List Step} {answer : Answer}
    (latest : latest? file history = some (.query path answer)) :
    (Step.query path answer).told? file = learned? answer.breakpoints := by
  have told := (List.mem_filter.mp (List.mem_of_getLast? latest)).2
  by_cases same : path.same file = true
  · rw [Step.told?, if_pos same]
  · simp [Step.told?, same] at told

theorem lookup_eq (store : BreakpointStore) (file : Path) (line : Nat) :
    store.lookup file line = ((store.get? file).bind (·.ids? (toString line))).getD [] := by
  unfold lookup
  cases store.get? file <;> rfl

/-! ## Running a history -/

variable (request : String → StateM World Answer)

/-- A channel that logs its answers. -/
def logged (line : String) : StateM (List Exchange × World) Answer :=
  logging (.asked line) (request line)

/-- Each operation is a step: the log shows its exchanges, and without a log the same is
done. -/
theorem perform_step (store : BreakpointStore) (operation : Operation) (log : List Exchange)
    (world : World) :
    ∃ (step : Step) (world' : World), step.operation = operation ∧
      store.perform request operation world = ((step.outcome?, step.after store), world') ∧
      store.perform (logged request) operation (log, world) =
        ((step.outcome?, step.after store), log ++ step.exchanges, world') := by
  cases operation with
  | query file =>
    cases answered : request (Breakpoints.request file) world with
    | mk answer world' =>
      have answeredLogged : logged request (Breakpoints.request file) (log, world) =
          (answer, log ++ [.asked (Breakpoints.request file) answer], world') := by
        simp only [logged, logging, answered]
      refine ⟨.query file answer, world', rfl, ?_, ?_⟩
      · simp only [perform, bind, StateT.bind, query_eq answered]
        rfl
      · simp only [perform, bind, StateT.bind, query_eq answeredLogged]
        rfl
  | raw line => exact ⟨.raw line (request line world).1, (request line world).2, rfl, rfl, rfl⟩
  | reset => exact ⟨.reset, world, rfl, rfl, by rw [Step.exchanges, List.append_nil]; rfl⟩

theorem performAll_history (store : BreakpointStore) (operations : List Operation)
    (log : List Exchange) (world : World) :
    ∃ (history : List Step) (world' : World), history.map Step.operation = operations ∧
      store.performAll request operations world =
        ((history.map Step.outcome?, history.foldl Step.after store), world') ∧
      store.performAll (logged request) operations (log, world) =
        ((history.map Step.outcome?, history.foldl Step.after store),
          log ++ history.flatMap Step.exchanges, world') := by
  induction operations generalizing store log world with
  | nil => exact ⟨[], world, rfl, rfl, by rw [List.flatMap_nil, List.append_nil]; rfl⟩
  | cons operation later inductionHypothesis =>
    obtain ⟨step, middle, rfl, performed, performedLogged⟩ :=
      perform_step request store operation log world
    obtain ⟨history, world', rfl, ran, ranLogged⟩ :=
      inductionHypothesis (step.after store) (log ++ step.exchanges) middle
    refine ⟨step :: history, world', rfl, ?_, ?_⟩
    · simp only [performAll, bind, StateT.bind, performed, ran]
      rfl
    · simp only [performAll, bind, StateT.bind, performedLogged, ranLogged]
      rw [List.flatMap_cons, ← List.append_assoc]
      rfl

/-- What is known of a file is what its history says. Whatever is done with an empty store
and its channel, and whatever the channel answers, the operations and the exchanges with
the channel are those of one history: each query makes one request for its file, and its
outcome is what the answer says. Of each file, what is known is what the latest step told
that told something of a path equal to it since the last reset, and nothing if there is
none. The ids at a line are those under its decimal text, in the order in which the answer
lists them. -/
theorem get?_eq_latest (operations : List Operation) (world : World) :
    let run := performAll (logged request) .empty operations ([], world)
    performAll request .empty operations world = (run.1, run.2.2) ∧
    ∃ history : List Step, history.map Step.operation = operations ∧
      run.1.1 = history.map Step.outcome? ∧ run.2.1 = history.flatMap Step.exchanges ∧
      ∀ file, run.1.2.get? file = (latest? file history).bind (Step.told? file) ∧
        ∀ line, run.1.2.lookup file line =
            ((run.1.2.get? file).bind (·.ids? (toString line))).getD [] ∧
          ∀ path reply breakpoints texts,
            latest? file history = some (.query path (.text reply)) →
            Reply.read (some reply) = .ok breakpoints →
            Reply.Lists reply (toString line) texts → run.1.2.lookup file line = texts := by
  intro run
  obtain ⟨history, world', operated, ran, ranLogged⟩ :=
    performAll_history request .empty operations [] world
  have run_eq : run = _ := ranLogged
  rw [run_eq]
  refine ⟨ran, history, operated, rfl, List.nil_append _, fun file => ?_⟩
  have known := get?_foldl_after history file
  refine ⟨known, fun line => ⟨lookup_eq _ file line, ?_⟩⟩
  intro path reply breakpoints texts latest reads lists
  have learned : learned? (Answer.text reply).breakpoints = some breakpoints := by
    simp only [Answer.breakpoints, reads, learned?]
  have ids : breakpoints.ids? (toString line) = some texts :=
    Reply.ids?_of_read reads lists (Reply.toString_ne_errorName line)
  rw [latest, Option.bind_some, told?_of_latest latest, learned] at known
  rw [lookup_eq, known, Option.bind_some, ids, Option.getD_some]

end DebugConsole.BreakpointStore
