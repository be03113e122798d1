import DebugConsole.Proofs.Debugger.States
import Mathlib.Data.List.Induction

/-!
# What is reported once in a cycle

A program that has ended is gone until something else is reported of it, so that its end
is reported once, however often the notice of it is printed. This follows from two facts:
the state is told by the events (`Debugger.keeps_shows`), and no rule of the terminated
state reports an end. The same holds of gdb and a program that goes on, since gdb's
listener is in the running state exactly when this was the last report.
-/

namespace DebugConsole

/-- Between any two reports of an event, another event that names a state is reported. -/
def Event.Parted (event : Event) (events : List Event) : Prop :=
  ∀ before between after, events = before ++ event :: (between ++ event :: after) →
    ∃ other ∈ between, other ≠ event ∧ other.state? ≠ none

/-- One more report leaves an event parted, unless it is a report of this event itself; in
this case another one must have come since the last of its reports. -/
theorem Event.Parted.concat {event last : Event} {events : List Event}
    (parted : event.Parted events)
    (renewed : last = event → ∀ before between, events = before ++ event :: between →
      ∃ other ∈ between, other ≠ event ∧ other.state? ≠ none) :
    event.Parted (events ++ [last]) := by
  intro before between after shape
  rcases List.eq_nil_or_concat after with rfl | ⟨after, final, rfl⟩
  · have parts : events ++ [last] = (before ++ event :: between) ++ [event] := by
      rw [shape]
      simp only [List.append_assoc, List.cons_append]
    obtain ⟨earlier, same⟩ := List.append_inj' parts rfl
    exact renewed (List.head_eq_of_cons_eq same) before between earlier
  · have parts : events ++ [last] =
        (before ++ event :: (between ++ event :: after)) ++ [final] := by
      rw [shape, List.concat_eq_append]
      simp only [List.append_assoc, List.cons_append]
    exact parted before between after (List.append_inj' parts rfl).1

/-- If the state named last is not that of an event, another event that names a state came
behind each report of it. -/
theorem exists_renewal {start state : RunState} {event : Event} (names : event.state? = some state)
    {before between : List Event}
    (left : namedState start (before ++ event :: between) ≠ state) :
    ∃ other ∈ between, other ≠ event ∧ other.state? ≠ none := by
  -- Looking back from the last event, the first one that names a state decides.
  induction between using List.reverseRecOn with
  | nil =>
    rw [namedState_concat, names] at left
    exact absurd rfl left
  | append_singleton between last inductionHypothesis =>
    rw [← List.cons_append, ← List.append_assoc, namedState_concat] at left
    cases named : last.state? with
    | none =>
      rw [named, Option.getD_none] at left
      obtain ⟨other, member, apart⟩ := inductionHypothesis left
      exact ⟨other, List.mem_append_left _ member, apart⟩
    | some other =>
      rw [named, Option.getD_some] at left
      refine ⟨last, by simp, ?_, by simp [named]⟩
      rintro rfl
      exact left (Option.some.inj (named.symm.trans names))

namespace Debugger

/-- An event that leads to a state in which nothing reports it stays parted, if the listener
stays in this state until another one is named. -/
theorem keeps_parted (debugger : Debugger) (policy : Location.Policy) (event : Event)
    {state : RunState} (names : event.state? = some state)
    (unmoved : ∀ location, event ≠ .jumpTo location)
    (unreported : ∀ notice ∈ debugger.notices, notice.1 ∈ debugger.watched state →
      notice.2.event ≠ some event)
    (stays : ∀ shown, debugger.Shows state shown → shown = state) :
    (debugger.rulebook policy).Keeps fun shown events =>
      debugger.Shows (namedState debugger.start events) shown ∧ event.Parted events where
  fires := by
    rintro shown events rule member ⟨shows, parted⟩ finding
    refine ⟨(debugger.keeps_shows policy).fires member shows finding, ?_⟩
    cases told : (rule.react finding).event with
    | none => simpa using parted
    | some last =>
      refine parted.concat ?_
      rintro rfl before between rfl
      suffices left : namedState debugger.start (before ++ last :: between) ≠ state from
        exists_renewal names left
      intro named
      rw [named] at shows
      obtain rfl := stays shown shows
      have watched := pattern_watched member
      rcases mem_rules member with rfl | ⟨notice, noticed, rfl⟩
      · dsimp only at told
        rcases jump_cases policy shown finding with ⟨location, -, jumps⟩ | ⟨fault, -, remains⟩
        · rw [jumps] at told
          exact unmoved location (Option.some.inj told).symm
        · rw [remains] at told
          cases told
      · exact unreported notice noticed watched told
  stalls := by
    rintro shown events discarded ⟨shows, parted⟩
    refine ⟨(debugger.keeps_shows policy).stalls discarded shows, parted.concat ?_⟩
    rintro rfl
    cases names

/-- No program ends twice in a row: the end is parted in every run. -/
theorem parted_terminated (debugger : Debugger) (options : Options) (chunks : List (List UInt8)) :
    Event.terminated.Parted ((debugger.listener options).feedAll chunks).1.flatten := by
  have unreported : ∀ notice ∈ debugger.notices, notice.1 ∈ debugger.watched .terminated →
      notice.2.event ≠ some .terminated := by
    cases debugger <;> decide
  have stays : ∀ shown, debugger.Shows .terminated shown → shown = .terminated := by
    rintro shown (same | ⟨-, -, impossible⟩)
    · exact same
    · cases impossible
  have keeps := debugger.keeps_parted options.policy .terminated rfl (by simp) unreported stays
  exact ((debugger.listener options).feedAll_of_keeps keeps
    ⟨.inl rfl, by simp [Event.Parted]⟩ chunks).2

/-- With gdb no program goes on twice in a row. -/
theorem parted_resumedRunning (options : Options) (chunks : List (List UInt8)) :
    Event.resumedRunning.Parted ((Debugger.gdb.listener options).feedAll chunks).1.flatten := by
  have unreported : ∀ notice ∈ Debugger.gdb.notices, notice.1 ∈ Debugger.gdb.watched .running →
      notice.2.event ≠ some .resumedRunning := by
    decide
  have stays : ∀ shown, Debugger.gdb.Shows .running shown → shown = .running := by
    rintro shown (same | ⟨impossible, -⟩)
    · exact same
    · cases impossible
  have keeps := Debugger.gdb.keeps_parted options.policy .resumedRunning rfl (by simp)
    unreported stays
  exact ((Debugger.gdb.listener options).feedAll_of_keeps keeps
    ⟨.inl rfl, by simp [Event.Parted]⟩ chunks).2

/-- The end of a program is reported once in a cycle: whatever the output and however it is
cut, between two reports of it stands a location, a prompt or a resumption. So it is with
gdb and the report that the program goes on: between two of these stands a location, a
prompt or an end. -/
theorem reported_once_per_cycle (debugger : Debugger) (options : Options)
    (chunks : List (List UInt8)) :
    let events := ((debugger.listener options).feedAll chunks).1.flatten
    (∀ before between after, events = before ++ .terminated :: (between ++ .terminated :: after) →
      ∃ event ∈ between,
        (∃ location, event = .jumpTo location) ∨ event = .readyForQuery ∨ event = .resumedRunning) ∧
    (debugger = .gdb → ∀ before between after,
      events = before ++ .resumedRunning :: (between ++ .resumedRunning :: after) →
      ∃ event ∈ between,
        (∃ location, event = .jumpTo location) ∨ event = .readyForQuery ∨ event = .terminated) := by
  constructor
  · intro before between after shape
    obtain ⟨event, member, apart, named⟩ :=
      debugger.parted_terminated options chunks before between after shape
    refine ⟨event, member, ?_⟩
    cases event <;> simp_all [Event.state?]
  · rintro rfl before between after shape
    obtain ⟨event, member, apart, named⟩ :=
      parted_resumedRunning options chunks before between after shape
    refine ⟨event, member, ?_⟩
    cases event <;> simp_all [Event.state?]

/-- The exit notice of gdb comes twice in one chunk, and again after the program was
started anew: two ends are reported, and the starts around the second one. -/
theorem reported_once_per_cycle_restarted :
    let notice := Utf8.encode "\n[Inferior 1 (process 7) exited".toList
    let start := Utf8.encode "\nStarting program: ".toList
    let run := (Debugger.gdb.listener .standard).feedAll [notice ++ notice, start, notice, start]
    run.1.flatten = [.terminated, .resumedRunning, .terminated, .resumedRunning] ∧
      (∃ event ∈ [Event.resumedRunning], (∃ location, event = .jumpTo location) ∨
        event = .readyForQuery ∨ event = .resumedRunning) ∧
      ∃ event ∈ [Event.terminated], (∃ location, event = .jumpTo location) ∨
        event = .readyForQuery ∨ event = .terminated := by
  intro notice start run
  have events : run.1.flatten =
      [.terminated, .resumedRunning, .terminated, .resumedRunning] := by decide +kernel
  obtain ⟨ends, starts⟩ := reported_once_per_cycle .gdb .standard
    [notice ++ notice, start, notice, start]
  exact ⟨events, ends [] [.resumedRunning] [.resumedRunning] events,
    starts rfl [.terminated] [.terminated] [] events⟩

end Debugger

end DebugConsole
