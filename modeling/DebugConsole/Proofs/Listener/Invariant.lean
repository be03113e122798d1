import DebugConsole.Proofs.Listener.History
import Mathlib.Data.List.Basic

/-!
# Invariants of a listener

What is true of a listener's state and of the events reported so far, and is kept by
every rule that fires and by text that is given up, is true after every run
(`Listener.feedAll_of_keeps`). So an invariant of all runs is a matter of one rule at a
time, which `Debugger.mem_rules` splits into a location and a list of notices.
-/

namespace DebugConsole

namespace Rulebook

/-- A property of a state and of the events that led there is kept, whichever rule fires
and whatever it found. -/
structure Keeps (book : Rulebook) (holds : RunState → List Event → Prop) : Prop where
  fires : ∀ {state events rule}, rule ∈ book.rules state → holds state events → ∀ finding,
    holds (rule.react finding).next (events ++ (rule.react finding).event.toList)
  stalls : ∀ {state events} (discarded : Nat), holds state events →
    holds state (events ++ [.stalled discarded])

variable {book : Rulebook} {holds : RunState → List Event → Prop}

theorem Keeps.takes (keeps : book.Keeps holds) {transition : Transition}
    (takes : book.Takes transition) {events : List Event} (start : holds transition.state events) :
    holds transition.reaction.next (events ++ transition.reaction.event.toList) := by
  obtain ⟨rule, here, -, reacts⟩ := takes.fires
  rw [reacts]
  exact keeps.fires (List.mem_of_getElem? here) start _

theorem Keeps.chain (keeps : book.Keeps holds) {state final : RunState} {text rest : List Char}
    {transitions : List Transition} (chain : book.Chain state text transitions final rest)
    {events : List Event} (start : holds state events) :
    holds final (events ++ transitions.filterMap (·.reaction.event)) := by
  induction chain generalizing events with
  | quiet _ => simpa using start
  | idle takes _ =>
    rw [List.filterMap_eq_flatMap_toList, List.flatMap_singleton]
    exact keeps.takes takes start
  | step takes _ _ _ inductionHypothesis =>
    have later := inductionHypothesis (keeps.takes takes start)
    rw [List.filterMap_eq_flatMap_toList] at later ⊢
    rwa [List.flatMap_cons, ← List.append_assoc]

theorem Keeps.history (keeps : book.Keeps holds) {state final : RunState}
    {text rest : List Char} {episodes : List Episode}
    (history : History book state text episodes final rest) {events : List Event}
    (start : holds state events) :
    holds final (events ++ (episodes.map Episode.events).flatten) := by
  induction history generalizing events with
  | nil => simpa using start
  | @cons state text episode middle kept later final rest chain history inductionHypothesis =>
    have fired := keeps.chain chain start
    have given : holds middle (events ++ episode.events) := by
      rw [Episode.events, ← List.append_assoc]
      cases episode.lost with
      | none => simpa using fired
      | some lost => exact keeps.stalls _ fired
    rw [List.map_cons, List.flatten_cons, ← List.append_assoc]
    exact inductionHypothesis given

end Rulebook

/-- What each rule keeps is true after every run. -/
theorem Listener.feedAll_of_keeps (listener : Listener)
    {holds : RunState → List Event → Prop} (keeps : listener.book.Keeps holds)
    (start : holds listener.state []) (chunks : List (List UInt8)) :
    holds (listener.feedAll chunks).2.state (listener.feedAll chunks).1.flatten := by
  obtain ⟨episodes, _, -, -, events, history⟩ := listener.exists_history chunks
  rw [events]
  exact keeps.history history start

end DebugConsole
