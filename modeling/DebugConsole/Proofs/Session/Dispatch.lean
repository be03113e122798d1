import DebugConsole.Proofs.Session.Exchanges
import DebugConsole.Proofs.Session.Shown

/-!
# How a session follows events

A session acts on the events that its listener reports for a chunk one after the other.
`Event.LeadsTo` says what one event leads to while a file is shown: a note, or for a
prompt one request for that file, of whose answer the editor is told what `Answer.Tells`
says. A whole chunk leads to what its events lead to, in their order, each of them behind
the jumps in front of it (`Session.feed_dispatches`).
-/

namespace DebugConsole

/-- The file that an event shows. -/
def Event.file? : Event → Option Path
  | .jumpTo location => some location.file
  | .readyForQuery | .resumedRunning | .terminated | .stalled _ => none

/-- The file that is shown after some events: that of the latest jump, and the one shown
before if there was none. -/
def shownAfter (shown : Option Path) (events : List Event) : Option Path :=
  (events.filterMap Event.file?).getLast?.or shown

theorem shownAfter_append (shown : Option Path) (events later : List Event) :
    shownAfter shown (events ++ later) = shownAfter (shownAfter shown events) later := by
  simp [shownAfter, Option.or_assoc]

theorem shownAfter_cons (shown : Option Path) (event : Event) (later : List Event) :
    shownAfter shown (event :: later) = shownAfter (shownAfter shown [event]) later :=
  shownAfter_append shown [event] later

/-- What an editor is told of a file when an answer has come for it: the breakpoints that
the reply lists, that there are none if the debugger was silent or its reply is malformed,
the message of a refusal, and nothing of a failure of the channel. -/
inductive Answer.Tells (file : Path) : Answer → List Note → Prop where
  | silence : Tells file .silence [.breakpointsUpdated file .empty]
  | listing {reply : String} {breakpoints : Breakpoints}
      (reads : Reply.read (some reply) = .ok breakpoints) :
      Tells file (.text reply) [.breakpointsUpdated file breakpoints]
  | malformed {reply : String} {cause : Malformation}
      (reads : Reply.read (some reply) = .error (.malformed cause)) :
      Tells file (.text reply) [.breakpointsUpdated file .empty]
  | refusal {reply message : String}
      (reads : Reply.read (some reply) = .error (.reported message)) :
      Tells file (.text reply) [.queryError file message]
  | failure (error : Error) : Tells file (.failure error) []

/-- What an event leads to while a file is shown: what the editor is told, and what passes
between the session and its surroundings. -/
inductive Event.LeadsTo (shown : Option Path) : Event → List Note → List Exchange → Prop where
  | jumpTo (location : Location) : LeadsTo shown (.jumpTo location) [.jump location] []
  | resumedRunning : LeadsTo shown .resumedRunning [.resumed] []
  | terminated : LeadsTo shown .terminated [.terminated] []
  | stalled (discarded : Nat) : LeadsTo shown (.stalled discarded) [.stalled discarded] []
  | unasked (nothing : shown = none) : LeadsTo shown .readyForQuery [] []
  | asked {file : Path} {answer : Answer} {notes : List Note} (some : shown = some file)
      (tells : answer.Tells file notes) :
      LeadsTo shown .readyForQuery notes
        [.asked ("info-breakpoints " ++ file.text ++ "\n") answer]

/-- Parts that are what events lead to, each behind the events in front of it. -/
structure Dispatched (shown : Option Path) (events : List Event)
    (parts : List (List Note × List Exchange)) : Prop where
  length : parts.length = events.length
  leads : ∀ (place : Nat) (event : Event), events[place]? = some event →
    ∃ notes exchanges, parts[place]? = some (notes, exchanges) ∧
      event.LeadsTo (shownAfter shown (events.take place)) notes exchanges

namespace Dispatched

variable {shown : Option Path} {event : Event} {later : List Event} {notes : List Note}
  {exchanges : List Exchange} {parts : List (List Note × List Exchange)}

theorem nil : Dispatched shown [] [] := ⟨rfl, nofun⟩

theorem cons (first : event.LeadsTo shown notes exchanges)
    (others : Dispatched (shownAfter shown [event]) later parts) :
    Dispatched shown (event :: later) ((notes, exchanges) :: parts) := by
  refine ⟨congrArg (· + 1) others.length, fun place other found => ?_⟩
  cases place with
  | zero =>
    obtain rfl : event = other := by simpa using found
    exact ⟨notes, exchanges, rfl, first⟩
  | succ place =>
    rw [List.take_succ_cons, shownAfter_cons]
    exact others.leads place other found

end Dispatched

namespace Answer

/-- A session tells what an answer tells. -/
theorem tells_queryNotes (file : Path) (answer : Answer) :
    answer.Tells file (Session.queryNotes file answer.breakpoints) := by
  cases answer with
  | silence => exact .silence
  | failure error => exact .failure error
  | text reply =>
    rw [breakpoints]
    cases reads : Reply.read (some reply) with
    | ok breakpoints => exact .listing reads
    | error fault =>
      cases fault with
      | malformed cause => exact .malformed reads
      | reported message => exact .refusal reads

/-- An answer tells of the breakpoints of no file but the one that it came for. -/
theorem Tells.update?_eq_none {path file : Path} {answer : Answer} {notes : List Note}
    (tells : answer.Tells path notes) (apart : path.same file = false) :
    ∀ note ∈ notes, note.update? file = none := by
  cases tells <;> simp [Note.update?, apart]

end Answer

/-- An event tells of the breakpoints of no file but the one that is asked for. -/
theorem Event.LeadsTo.update?_eq_none {shown : Option Path} {event : Event} {notes : List Note}
    {exchanges : List Exchange} (leads : event.LeadsTo shown notes exchanges) {file : Path}
    (others : ∀ path, event = .readyForQuery → shown = some path → path.same file = false) :
    ∀ note ∈ notes, note.update? file = none := by
  cases leads with
  | @asked path _ _ shows tells => exact tells.update?_eq_none (others path rfl shows)
  | unasked _ => simp
  | jumpTo _ | resumedRunning | terminated | stalled _ => simp [Note.update?]

/-- Nothing is told of the breakpoints of a file that is not asked for. -/
theorem Dispatched.lastTold?_eq_none {shown : Option Path} {events : List Event}
    {parts : List (List Note × List Exchange)} (dispatched : Dispatched shown events parts)
    {file : Path}
    (others : ∀ (place : Nat) (path : Path), events[place]? = some .readyForQuery →
      shownAfter shown (events.take place) = some path → path.same file = false) :
    lastTold? file (parts.flatMap (·.1)) = none := by
  rw [lastTold?, List.getLast?_eq_none_iff, List.filterMap_eq_nil_iff]
  intro note inside
  obtain ⟨part, member, told⟩ := List.mem_flatMap.mp inside
  obtain ⟨place, found⟩ := List.mem_iff_getElem?.mp member
  obtain ⟨within, -⟩ := List.getElem?_eq_some_iff.mp found
  obtain ⟨event, happened⟩ : ∃ event, events[place]? = some event :=
    ⟨_, List.getElem?_eq_getElem (dispatched.length ▸ within)⟩
  obtain ⟨notes, exchanges, same, leads⟩ := dispatched.leads place event happened
  obtain rfl : part = (notes, exchanges) := by simpa [found] using same
  exact leads.update?_eq_none (fun path prompt => others place path (prompt ▸ happened)) note told

namespace Session

variable {World : Type} (surroundings : Surroundings World) (session : Session)

/-- Refreshing asks for the watched file, with a log and without. -/
theorem refresh_asks {file : Path} (watched : session.watched = some file)
    (log : List Exchange) (world : World) :
    ∃ answer world',
      session.refresh surroundings world =
        ((queryNotes file answer.breakpoints,
          { session with store := session.store.learn file answer.breakpoints }), world') ∧
      session.refresh surroundings.logged (log, world) =
        ((queryNotes file answer.breakpoints,
          { session with store := session.store.learn file answer.breakpoints }),
          log ++ [.asked (Breakpoints.request file) answer], world') := by
  cases answered : surroundings.request (Breakpoints.request file) world with
  | mk answer world' =>
    have answeredLogged : surroundings.logged.request (Breakpoints.request file) (log, world) =
        (answer, log ++ [.asked (Breakpoints.request file) answer], world') := by
      simp only [Surroundings.logged, logging, answered]
    exact ⟨answer, world',
      refresh_eq watched (BreakpointStore.query_eq answered session.store),
      refresh_eq watched (BreakpointStore.query_eq answeredLogged session.store)⟩

/-- An event leads to what the session does about it, with a log and without. -/
theorem react_leadsTo (event : Event) (log : List Exchange) (world : World) :
    ∃ notes exchanges after world', event.LeadsTo session.watched notes exchanges ∧
      after.watched = shownAfter session.watched [event] ∧
      session.react surroundings event world = ((notes, after), world') ∧
      session.react surroundings.logged event (log, world) =
        ((notes, after), log ++ exchanges, world') := by
  cases event with
  | readyForQuery =>
    cases watched : session.watched with
    | none =>
      have idle {World : Type} (surroundings : Surroundings World) (world : World) :
          session.react surroundings .readyForQuery world = (([], session), world) := by
        simp only [react, refresh, watched]
        rfl
      exact ⟨[], [], session, world, .unasked rfl, watched, idle _ _,
        by rw [List.append_nil, idle]⟩
    | some file =>
      obtain ⟨answer, world', asked, askedLogged⟩ :=
        session.refresh_asks surroundings watched log world
      exact ⟨_, _, { session with store := session.store.learn file answer.breakpoints }, world',
        .asked rfl (answer.tells_queryNotes file), watched, asked, askedLogged⟩
  | jumpTo location =>
    exact ⟨_, _, { session with watched := some location.file }, world, .jumpTo location, rfl, rfl,
      by rw [List.append_nil]; rfl⟩
  | resumedRunning =>
    exact ⟨_, _, session, world, .resumedRunning, rfl, rfl, by rw [List.append_nil]; rfl⟩
  | terminated =>
    exact ⟨_, _, session, world, .terminated, rfl, rfl, by rw [List.append_nil]; rfl⟩
  | stalled discarded =>
    exact ⟨_, _, session, world, .stalled discarded, rfl, rfl, by rw [List.append_nil]; rfl⟩

/-- Events are acted on one after the other, each behind those in front of it. -/
theorem reactAll_dispatched (events : List Event) (log : List Exchange) (world : World) :
    ∃ parts after world', Dispatched session.watched events parts ∧
      after.watched = shownAfter session.watched events ∧
      session.reactAll surroundings events world = ((parts.flatMap (·.1), after), world') ∧
      session.reactAll surroundings.logged events (log, world) =
        ((parts.flatMap (·.1), after), log ++ parts.flatMap (·.2), world') := by
  induction events generalizing session log world with
  | nil =>
    refine ⟨[], session, world, .nil, rfl, rfl, ?_⟩
    simp only [List.flatMap_nil, List.append_nil]
    rfl
  | cons event later inductionHypothesis =>
    obtain ⟨notes, exchanges, middle, world', leads, shown, reacted, reactedLogged⟩ :=
      session.react_leadsTo surroundings event log world
    obtain ⟨parts, after, world'', dispatched, shown', further, furtherLogged⟩ :=
      inductionHypothesis middle (log ++ exchanges) world'
    rw [shown] at dispatched shown'
    refine ⟨(notes, exchanges) :: parts, after, world'', dispatched.cons leads, ?_, ?_, ?_⟩
    · rw [shown', ← shownAfter_cons]
    · rw [reactAll_cons, reacted]
      dsimp only
      rw [further]
      rfl
    · rw [reactAll_cons, reactedLogged]
      dsimp only
      rw [furtherLogged, List.append_assoc]
      rfl

/-- A session follows the events that its listener reports for a chunk. There are parts,
one for each event, that are what the event leads to behind those in front of it: a jump,
a resumption, the end of the program and a stall are told as they are, and a prompt leads
to one query for the file shown by then, whose outcome is told, and to nothing if no file
is shown. The notes of the chunk are those of its parts in order; and what passes between
the session and its surroundings is the requests of the parts in order and nothing else. The
file shown afterwards is that of the last jump, if there was one. Of the session nothing
else changes but the listener, which has been fed, and the store, in which only files
that were asked for may change. -/
theorem feed_dispatches (chunk : List UInt8) (log : List Exchange) (world : World) :
    let events := (session.listener.feed chunk).1
    let run := session.feed surroundings.logged chunk (log, world)
    session.feed surroundings chunk world = (run.1, run.2.2) ∧
    (∃ parts, Dispatched session.watched events parts ∧
      run.1.1 = parts.flatMap (·.1) ∧ run.2.1 = log ++ parts.flatMap (·.2)) ∧
    run.1.2 = { session with
      listener := (session.listener.feed chunk).2
      store := run.1.2.store
      watched := shownAfter session.watched events } ∧
    ∀ file, (∀ (place : Nat) (path : Path), events[place]? = some .readyForQuery →
        shownAfter session.watched (events.take place) = some path → path.same file = false) →
      run.1.2.store.get? file = session.store.get? file := by
  intro events run
  let fed : Session := { session with listener := (session.listener.feed chunk).2 }
  obtain ⟨parts, after, world', dispatched, shown, ran, ranLogged⟩ :=
    fed.reactAll_dispatched surroundings events log world
  have run_eq : run = ((parts.flatMap (·.1), after), log ++ parts.flatMap (·.2), world') :=
    ranLogged
  have informed : fed.Informed (fed.reactAll surroundings events world).1.2 :=
    fed.reactAll_informed world events
  have tells : fed.Tells (fed.reactAll surroundings events world).1.1
      (fed.reactAll surroundings events world).1.2 := fed.reactAll_tells world events
  rw [ran] at informed tells
  rw [run_eq]
  refine ⟨ran, ⟨parts, dispatched, rfl, rfl⟩, ?_, fun file others => ?_⟩
  · obtain ⟨store, watched, rfl⟩ := informed
    exact congrArg (fun watched : Option Path => { fed with store, watched }) shown
  · have known := tells file
    rw [dispatched.lastTold?_eq_none others, Option.none_or] at known
    exact known

end Session

end DebugConsole
