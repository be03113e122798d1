import DebugConsole.Pattern.Reader
import DebugConsole.Proofs.Debugger.Rules
import DebugConsole.Proofs.Listener.Invariant
import DebugConsole.Proofs.Session.Calls
import DebugConsole.Session.Rehearsal

/-!
# The state is told by the events

Each event but a stall names the state that it leads to, and every rule of the debuggers
leads to the state that its event names, or stays where it is if it has none. The one
exception is the report of a stop by lldb, whose location follows later. So the events
alone tell the state of a listener, up to this exception.

Two debuggers have no rule for a program that goes on. Their consoles never show a
running program, and so no command of a session interrupts it.
-/

namespace DebugConsole

/-- The state that an event names. -/
def Event.state? : Event → Option RunState
  | .jumpTo _ | .readyForQuery => some .paused
  | .resumedRunning => some .running
  | .terminated => some .terminated
  | .stalled _ => none

/-- The state named by the last of some events that names one, and the state at the start
if none does. -/
def namedState (start : RunState) (events : List Event) : RunState :=
  (events.filterMap Event.state?).getLast?.getD start

theorem namedState_concat (start : RunState) (events : List Event) (event : Event) :
    namedState start (events ++ [event]) = event.state?.getD (namedState start events) := by
  cases named : event.state? <;> simp [namedState, named]

namespace Debugger

variable {debugger : Debugger} {policy : Location.Policy}

/-! ## A debugger's console can be set up -/

/-- Every pattern is what its text spells. -/
theorem read?_source {pattern : Pattern} (member : pattern ∈ debugger.patterns) :
    Pattern.read? pattern.source = some pattern := by
  have inspected : ∀ pattern ∈ debugger.patterns, Pattern.read? pattern.source = some pattern := by
    cases debugger <;> decide +kernel
  exact inspected pattern member

theorem rules_ne_nil {state : RunState} (member : state ∈ debugger.states) :
    (debugger.rulebook policy).rules state ≠ [] := by
  intro none
  have silent : state ∈ (debugger.rulebook policy).silent debugger.states :=
    List.mem_filter.mpr ⟨member, by simp [none]⟩
  rw [silent_states] at silent
  cases silent

theorem new?_eq_listener (debugger : Debugger) (options : Options) :
    Listener.new? (debugger.rulebook options.policy) debugger.start options.bounds =
      some (debugger.listener options) := by
  have some : (debugger.rulebook options.policy).rules debugger.start ≠ [] :=
    rules_ne_nil debugger.start_mem_states
  rw [Listener.new?, if_neg (by simpa using some)]
  rfl

/-! ## Events name states -/

/-- How a state may stand to the state that was named last: it is that one, or the
program was running and lldb has reported a stop. -/
def Shows (debugger : Debugger) (named state : RunState) : Prop :=
  state = named ∨ debugger = .lldb ∧ state = .paused ∧ named = .running

/-- A notice names the state that it leads to, unless it is lldb's report of a stop. -/
theorem notice_names {notice : Pattern × Reaction} (member : notice ∈ debugger.notices) :
    notice.2.event.bind Event.state? = some notice.2.next ∨
      debugger = .lldb ∧ notice = (Lldb.stopped, .pause) := by
  have inspected : ∀ notice ∈ debugger.notices,
      notice.2.event.bind Event.state? = some notice.2.next ∨
        debugger = .lldb ∧ notice = (Lldb.stopped, .pause) := by
    cases debugger <;> decide
  exact inspected notice member

/-- A stop is looked for while the program is running only. -/
theorem running_of_stopped_watched {state : RunState}
    (watched : Lldb.stopped ∈ Debugger.lldb.watched state) : state = .running := by
  cases state
  · rfl
  all_goals exact absurd watched (by decide)

/-- Every rule keeps the state to what the events name. -/
theorem keeps_shows (debugger : Debugger) (policy : Location.Policy) :
    (debugger.rulebook policy).Keeps fun state events =>
      debugger.Shows (namedState debugger.start events) state where
  fires := by
    intro state events rule member shows finding
    rcases mem_rules member with rfl | ⟨notice, noticed, rfl⟩
    · dsimp only
      rcases jump_cases policy state finding with ⟨location, -, jumps⟩ | ⟨fault, -, stays⟩
      · rw [jumps]
        left
        simp [namedState_concat, Event.state?]
      · rw [stays]
        simpa using shows
    · rcases notice_names noticed with names | ⟨rfl, rfl⟩
      · obtain ⟨event, told, named⟩ := Option.bind_eq_some_iff.mp names
        left
        simp [told, namedState_concat, named]
      · -- The stop that is reported without an event: the program was running before, and
        -- so the state named last is the running one.
        obtain rfl := running_of_stopped_watched (pattern_watched member)
        rcases shows with same | ⟨-, impossible, -⟩
        · right
          simpa [Reaction.pause] using same.symm
        · cases impossible
  stalls := by
    intro state events discarded shows
    simpa [namedState_concat, Event.state?] using shows

/-- A debugger whose notices never announce that the program goes on never shows it
running. -/
theorem keeps_unresumed (unresumed : ∀ notice ∈ debugger.notices,
      notice.2.next ≠ .running ∧ notice.2.event ≠ some .resumedRunning)
    (policy : Location.Policy) :
    (debugger.rulebook policy).Keeps fun state events =>
      state ≠ .running ∧ .resumedRunning ∉ events where
  fires := by
    rintro state events rule member ⟨stopped, none⟩ finding
    rcases mem_rules member with rfl | ⟨notice, noticed, rfl⟩
    · dsimp only
      rcases jump_cases policy state finding with ⟨location, -, jumps⟩ | ⟨fault, -, stays⟩
      · rw [jumps]
        simpa using none
      · rw [stays]
        exact ⟨stopped, by simpa using none⟩
    · obtain ⟨next, event⟩ := unresumed notice noticed
      exact ⟨next, by simpa [none] using event⟩
  stalls := by
    rintro state events discarded ⟨stopped, none⟩
    exact ⟨stopped, by simpa using none⟩

/-- While a listener settles, it goes through states of its debugger only. -/
theorem settle_visits (options : Options) (chunks : List (List UInt8)) (chunk : List UInt8) :
    ∀ firing ∈ ((((debugger.listener options).feedAll chunks).2.hear chunk).settle).1,
      firing.reaction.next ∈ debugger.states := by
  obtain ⟨-, book, -, reached⟩ := debugger.listener_settled options chunks
  obtain ⟨transitions, _, _, settled, chain⟩ :=
    (((debugger.listener options).feedAll chunks).2.hear chunk).settle_chain
  have start : (((debugger.listener options).feedAll chunks).2.hear chunk).state ∈
      debugger.states := reached
  have rules : (((debugger.listener options).feedAll chunks).2.hear chunk).book =
      debugger.rulebook options.policy := book
  rw [rules] at chain
  rw [settled]
  intro firing member
  obtain ⟨transition, inside, rfl⟩ := List.mem_map.mp member
  exact chain.visited (debugger.rulebook_closed options.policy) start transition inside

/-- The events tell the state. The console of each debugger can be set up: its patterns
can be read, each state that it can show has rules, and a listener starts. Whatever is fed
then, the listener is in such a state, and it goes through no other while it settles; its
state is the one named by the last event that names one, or, with lldb, the paused one
where that is the running one. Two debuggers are never seen running, and in whatever is
done with a session of theirs the program is interrupted only when this is asked for. -/
theorem state_told_by_events (debugger : Debugger) (options : Options) :
    (∀ state, ∀ rule ∈ (debugger.rulebook options.policy).rules state,
      Pattern.read? rule.pattern.source = some rule.pattern) ∧
    (debugger.rulebook options.policy).silent debugger.states = [] ∧
    Listener.new? (debugger.rulebook options.policy) debugger.start options.bounds =
      some (debugger.listener options) ∧
    (∀ state ∈ debugger.states, (debugger.rulebook options.policy).rules state ≠ []) ∧
    (∀ chunks : List (List UInt8),
      let run := (debugger.listener options).feedAll chunks
      run.2.state ∈ debugger.states ∧
        (∀ chunk, ∀ firing ∈ (run.2.hear chunk).settle.1,
          firing.reaction.next ∈ debugger.states) ∧
        (run.2.state = namedState debugger.start run.1.flatten ∨
          debugger = .lldb ∧ run.2.state = .paused ∧
            namedState debugger.start run.1.flatten = .running)) ∧
    (debugger = .pdb ∨ debugger = .bashdb →
      (∀ chunks : List (List UInt8),
        let run := (debugger.listener options).feedAll chunks
        run.2.state ≠ .running ∧ .resumedRunning ∉ run.1.flatten) ∧
      ∀ {World : Type} (surroundings : Surroundings World)
        (operations : List Session.Operation) (world : World),
        ((Session.start debugger options).performAll surroundings.recorded operations
          ([], world)).2.1.count .interrupt = operations.count .interrupt) := by
  refine ⟨fun state rule member => read?_source (pattern_mem member),
    silent_states debugger options.policy, debugger.new?_eq_listener options,
    fun state member => rules_ne_nil member, fun chunks => ?_, fun driven => ?_⟩
  · obtain ⟨-, -, -, reached⟩ := debugger.listener_settled options chunks
    exact ⟨reached, settle_visits options chunks,
      (debugger.listener options).feedAll_of_keeps (debugger.keeps_shows options.policy)
        (.inl rfl) chunks⟩
  · have unresumed : ∀ notice ∈ debugger.notices,
        notice.2.next ≠ .running ∧ notice.2.event ≠ some .resumedRunning := by
      rcases driven with rfl | rfl <;> decide
    have stopped : debugger.start ≠ .running := by
      rcases driven with rfl | rfl <;> decide
    have never : ∀ chunks : List (List UInt8),
        ((debugger.listener options).feedAll chunks).2.state ≠ .running ∧
          .resumedRunning ∉ ((debugger.listener options).feedAll chunks).1.flatten :=
      (debugger.listener options).feedAll_of_keeps (keeps_unresumed unresumed options.policy)
        ⟨stopped, by simp⟩
    refine ⟨never, fun surroundings operations world => ?_⟩
    rw [Session.performAll_interrupts _ fun chunks => (never chunks).1, List.count_nil,
      Nat.zero_add]

/-- The only interrupt is the one asked for, whatever pdb has printed before. -/
theorem state_told_by_events_pdb :
    ((Session.start .pdb .standard).performAll Rehearsal.surroundings.recorded
      [.feed (Utf8.encode "Continuing.\n".toList), .toggle ⟨"/home/a.py"⟩ 3, .interrupt, .clearAll]
      ([], Rehearsal.fresh)).2.1.count .interrupt = 1 :=
  ((state_told_by_events .pdb .standard).2.2.2.2.2 (.inl rfl)).2 Rehearsal.surroundings _ _

end Debugger

end DebugConsole
