import DebugConsole.Proofs.Session.Operations
import DebugConsole.Session.Rehearsal

/-!
# Listening is independent of everything else

A session reads its debugger's output like a bare listener. A `Report` is what a chunk
shows of the debugged program. The reports of a session are those of a listener that is
fed the same chunks (`Session.trace_reports`), so two sessions that are fed the same
chunks report the same, whatever else is done with either and however their channels and
terminals fail (`Session.reports_independent`).
-/

namespace DebugConsole

/-- The note that an event is told by. A prompt is not told. -/
def Event.note? : Event → Option Note
  | .jumpTo location => some (.jump location)
  | .readyForQuery => none
  | .resumedRunning => some .resumed
  | .terminated => some .terminated
  | .stalled discarded => some (.stalled discarded)

/-- Whether a note tells what was heard on the console. The other notes tell what the
channel answered. -/
def Note.isHeard : Note → Bool
  | .jump _ | .resumed | .terminated | .stalled _ => true
  | .breakpointsUpdated _ _ | .queryError _ _ => false

/-- What a chunk shows of the debugged program: its state behind the chunk, and the notes
of what was heard in it. -/
structure Report where
  state : RunState
  notes : List Note
  deriving DecidableEq

/-- What each of some chunks shows to a listener. -/
def Listener.reports (listener : Listener) : List (List UInt8) → List Report
  | [] => []
  | chunk :: later =>
    let (events, fed) := listener.feed chunk
    ⟨fed.state, events.filterMap Event.note?⟩ :: fed.reports later

theorem Listener.reports_cons (listener : Listener) (chunk : List UInt8)
    (later : List (List UInt8)) :
    listener.reports (chunk :: later) =
      ⟨(listener.feed chunk).2.state, (listener.feed chunk).1.filterMap Event.note?⟩ ::
        (listener.feed chunk).2.reports later := rfl

namespace Session

/-- An operation of a run, what the editor was told by it, and the session behind it. -/
structure Moment where
  operation : Operation
  notes : List Note
  after : Session

/-- What a moment shows of the debugged program, if a chunk was fed. -/
def Moment.report? (moment : Moment) : Option Report :=
  moment.operation.chunk?.map fun _ => ⟨moment.after.state, moment.notes.filter Note.isHeard⟩

variable {World : Type} (surroundings : Surroundings World)

/-- The moments of a run. -/
def trace (session : Session) : List Operation → StateM World (List Moment)
  | [] => return []
  | operation :: later => do
    let (notes, after) ← session.perform surroundings operation
    return ⟨operation, notes, after⟩ :: (← after.trace later)

/-- What the chunks of a run show of the debugged program. -/
def reports (session : Session) (operations : List Operation) (world : World) : List Report :=
  (session.trace surroundings operations world).1.filterMap Moment.report?

variable (session : Session)

theorem trace_cons (operation : Operation) (later : List Operation) (world : World) :
    session.trace surroundings (operation :: later) world =
      let first := session.perform surroundings operation world
      let rest := first.1.2.trace surroundings later first.2
      (⟨operation, first.1.1, first.1.2⟩ :: rest.1, rest.2) := rfl

/-- A query tells nothing of what was heard, whatever its outcome. -/
theorem filter_isHeard_queryNotes (file : Path) (outcome : Except QueryFault Breakpoints) :
    (queryNotes file outcome).filter Note.isHeard = [] := by
  rcases outcome with (malformed | reported | channel) | breakpoints <;> rfl

theorem refresh_heard (world : World) :
    (session.refresh surroundings world).1.1.filter Note.isHeard = [] := by
  unfold refresh
  cases session.watched with
  | none => rfl
  | some file => exact filter_isHeard_queryNotes file _

theorem react_heard (event : Event) (world : World) :
    (session.react surroundings event world).1.1.filter Note.isHeard = event.note?.toList := by
  cases event with
  | readyForQuery => exact session.refresh_heard surroundings world
  | jumpTo _ | resumedRunning | terminated | stalled _ => rfl

/-- Each event is told of, whatever became of the queries in front of it. -/
theorem reactAll_heard (events : List Event) (world : World) :
    (session.reactAll surroundings events world).1.1.filter Note.isHeard =
      events.filterMap Event.note? := by
  induction events generalizing session world with
  | nil => rfl
  | cons event later inductionHypothesis =>
    rw [reactAll_cons]
    dsimp only
    rw [List.filter_append, react_heard, inductionHypothesis]
    cases event <;> rfl

/-- A chunk shows to a session what it shows to its listener. -/
theorem feed_report (chunk : List UInt8) (world : World) :
    let run := session.feed surroundings chunk world
    run.1.2.listener = (session.listener.feed chunk).2 ∧
      run.1.1.filter Note.isHeard = (session.listener.feed chunk).1.filterMap Event.note? :=
  let fed : Session := { session with listener := (session.listener.feed chunk).2 }
  ⟨(fed.reactAll_informed world _).listener, fed.reactAll_heard surroundings _ world⟩

/-- Beside what is heard in a chunk, no operation tells anything that is heard. -/
theorem perform_heard (operation : Operation) (world : World) :
    (session.perform surroundings operation world).1.1.filter Note.isHeard =
      (session.listener.feedAll operation.chunk?.toList).1.flatten.filterMap Event.note? := by
  cases operation with
  | feed chunk =>
    have heard := (session.feed_report surroundings chunk world).2
    simpa [perform, Operation.chunk?, Listener.feedAll] using heard
  | watch file =>
    exact refresh_heard surroundings { session with watched := some file } world
  | refresh => exact session.refresh_heard surroundings world
  | send _ _ | interrupt | toggle _ _ | clearAll | custom _ | finish => rfl

/-- What a run tells of what is heard is what its listener reports. -/
theorem performAll_heard (operations : List Operation) (world : World) :
    (session.performAll surroundings operations world).1.1.flatten.filter Note.isHeard =
      (session.listener.feedAll (operations.filterMap Operation.chunk?)).1.flatten.filterMap
        Event.note? := by
  induction operations generalizing session world with
  | nil => rfl
  | cons operation later inductionHypothesis =>
    rw [performAll_cons]
    dsimp only
    rw [List.flatten_cons, List.filter_append, perform_heard, inductionHypothesis,
      perform_listener]
    cases fed : operation.chunk? with
    | none => simp [List.filterMap_cons_none fed, Listener.feedAll]
    | some chunk => simp [List.filterMap_cons_some fed, Listener.feedAll]

/-- The reports of a run are those of the session's listener, fed the same chunks. -/
theorem trace_reports (operations : List Operation) (world : World) :
    session.reports surroundings operations world =
      session.listener.reports (operations.filterMap Operation.chunk?) := by
  induction operations generalizing session world with
  | nil => rfl
  | cons operation later inductionHypothesis =>
    rw [reports, trace_cons]
    dsimp only
    cases fed : operation.chunk? with
    | none =>
      have unmoved :
          (session.perform surroundings operation world).1.2.listener = session.listener := by
        rw [perform_listener, fed]
        rfl
      rw [List.filterMap_cons_none fed, ← unmoved, ← inductionHypothesis]
      exact List.filterMap_cons_none (by rw [Moment.report?, fed, Option.map_none])
    | some chunk =>
      obtain rfl : operation = .feed chunk := by
        cases operation <;> simp_all [Operation.chunk?]
      obtain ⟨moved, heard⟩ := session.feed_report surroundings chunk world
      rw [List.filterMap_cons_some fed, Listener.reports_cons, ← moved, ← heard,
        ← inductionHypothesis]
      rfl

/-- Listening is independent of everything else. Two sessions with the same debugger that
are fed the same chunks, each in its own surroundings and with anything else done in
between, report the same for each chunk: the same state behind it, and the same notes of
what was heard in it. It is what a bare listener for that debugger reports. Nothing that a
channel or a terminal does keeps a later chunk from being heard. -/
theorem reports_independent {World' : Type} (surroundings : Surroundings World)
    (surroundings' : Surroundings World') (debugger : Debugger) (options : Debugger.Options)
    (operations operations' : List Operation) (world : World) (world' : World')
    (same : operations.filterMap Operation.chunk? = operations'.filterMap Operation.chunk?) :
    let session := start debugger options
    let reports := session.reports surroundings operations world
    reports = session.reports surroundings' operations' world' ∧
      reports = (debugger.listener options).reports (operations.filterMap Operation.chunk?) := by
  intro session reports
  have bare : reports =
      (debugger.listener options).reports (operations.filterMap Operation.chunk?) :=
    session.trace_reports surroundings operations world
  refine ⟨?_, bare⟩
  rw [bare, same]
  exact (session.trace_reports surroundings' operations' world').symm

/-- A stop and a resumption are reported by a session that is only fed, and just so by one
whose channel is closed, whose terminal refuses everything, and which is ended between the
two. -/
theorem reports_independent_of_failures :
    let stop := Utf8.encode "\x1a\x1a/a.c:3:0\n\x1a\x1a\x1a".toList
    let resumption := Utf8.encode "\nContinuing.\n".toList
    let undisturbed : List Operation := [.feed stop, .feed resumption]
    let disturbed : List Operation := [.toggle ⟨"/b.c"⟩ 7, .feed stop, .custom "frame", .finish,
      .watch ⟨"/b.c"⟩, .send "step" [], .feed resumption, .interrupt, .clearAll]
    let failing := { Rehearsal.fresh with
      connected := false, refusesLines := true, refusesInterrupts := true }
    let reports := [⟨.paused, [.jump ⟨⟨"/a.c"⟩, 3⟩]⟩, ⟨.running, [.resumed]⟩]
    undisturbed.filterMap Operation.chunk? = disturbed.filterMap Operation.chunk? ∧
      (start .gdb .standard).reports Rehearsal.surroundings undisturbed Rehearsal.fresh =
        reports ∧
      (start .gdb .standard).reports Rehearsal.surroundings disturbed failing = reports := by
  intro stop resumption undisturbed disturbed failing reports
  have same : undisturbed.filterMap Operation.chunk? = disturbed.filterMap Operation.chunk? := rfl
  obtain ⟨alike, bare⟩ := reports_independent Rehearsal.surroundings Rehearsal.surroundings .gdb
    .standard undisturbed disturbed Rehearsal.fresh failing same
  have heard : (Debugger.gdb.listener .standard).reports [stop, resumption] = reports := by
    decide +kernel
  exact ⟨same, bare.trans heard, alike.symm.trans (bare.trans heard)⟩

end Session

end DebugConsole
