import DebugConsole.Proofs.Debugger.Rules
import DebugConsole.Proofs.Listener.Uneventful

/-!
# Debuggers are fed to quiescence

A chunk is worked through to its end: what is left of the text, cut short or not, holds
nothing that a rule of the state could fire on, and no rule ever fires without taking some
text. If less is kept of a text that is cut short than may wait, then nothing happens until
the next bytes come: a listener that is fed nothing reports nothing and stays what it is
(`Debugger.quiescent_after_feedAll`).
-/

namespace DebugConsole

/-- With tidy rules, whatever fires takes some text. -/
theorem Listener.consumed_ne_zero {listener : Listener} (tidy : listener.book.Tidy) :
    ∀ firing ∈ listener.settle.1, firing.consumed ≠ 0 := by
  obtain ⟨transitions, state, text, settled, chain⟩ := listener.settle_chain
  rw [settled]
  intro firing member
  obtain ⟨transition, inside, rfl⟩ := List.mem_map.mp member
  intro (none : transition.finding.consumed = 0)
  apply (chain.takes_of_mem inside).segment_ne_nil tidy
  rw [Transition.segment, none, List.take_zero]

namespace Debugger

/-- A debugger's output is worked through to its end. Whatever has been fed, no rule of the
state is found in the text that is left, whether it was cut short or not, and no rule ever
fires without taking some text; and if less is kept of a text that is cut short than may
wait, empty chunks lead to nothing, however many there are. -/
theorem quiescent_after_feedAll (debugger : Debugger) (options : Options)
    (room : options.bounds.keepTail < options.bounds.maxBytes) (chunks : List (List UInt8)) :
    let listener := ((debugger.listener options).feedAll chunks).2
    (∀ rule ∈ (debugger.rulebook options.policy).rules listener.state,
      rule.find? listener.buffer = none) ∧
    (∀ chunk, ∀ firing ∈ (listener.hear chunk).settle.1, firing.consumed ≠ 0) ∧
    ∀ count, listener.feedAll (List.replicate count []) = (List.replicate count [], listener) := by
  obtain ⟨settled, book, -, -⟩ := debugger.listener_settled options chunks
  have start : (debugger.listener options).Fits := by
    have one : (debugger.listener options).bufferedBytes = 1 := rfl
    have bounds : (debugger.listener options).bounds = options.bounds := rfl
    rw [Listener.Fits, one, bounds]
    omega
  refine ⟨fun rule member => ?_, fun chunk => ?_, fun count => ?_⟩
  · rw [← book] at member
    exact Rule.find?_eq_none_iff.mpr (settled.quiet rule member)
  · apply Listener.consumed_ne_zero
    have same : (((debugger.listener options).feedAll chunks).2.hear chunk).book =
        debugger.rulebook options.policy := book
    rw [same]
    exact debugger.rulebook_tidy options.policy
  · exact settled.feedAll_replicate_nil (start.feedAll (Nat.le_of_lt room) chunks) count

/-- Empty chunks lead to nothing behind a text that was cut short either. -/
theorem quiescent_after_feedAll_cut_short :
    let listener := ((Debugger.gdb.listener ⟨.verbatim, ⟨16, 8⟩⟩).feedAll [List.replicate 20 120]).2
    listener.buffer = List.replicate 8 'x' ∧ listener.feedAll [[], []] = ([[], []], listener) :=
  ⟨by decide +kernel, (quiescent_after_feedAll .gdb ⟨.verbatim, ⟨16, 8⟩⟩ (by decide)
    [List.replicate 20 120]).2.2 2⟩

end Debugger

end DebugConsole
