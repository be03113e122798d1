import DebugConsole.Proofs.Debugger.Marker
import DebugConsole.Proofs.Listener.History
import DebugConsole.Proofs.Location

/-!
# Jumps that are not made

Two texts are a location exactly if they tell one; nothing is coerced. A rule that reports
jumps and finds texts that are no location reports nothing and stays in its state, but what
it has matched is taken away all the same: the listener goes on as if that had never been
in front of its text (`Listener.settle_of_dropped`).
-/

namespace DebugConsole

namespace Listener

/-- A rule that fires without an event and stays in its state only takes text away: all that
follows is as if this text had not been there. -/
theorem settle_of_dropped {listener : Listener} {firing : Firing}
    (fires : listener.firing? = some firing) (same : firing.reaction.next = listener.state)
    (silent : firing.reaction.event = none) :
    let left := { listener with buffer := listener.buffer.drop firing.consumed }
    listener.fire firing = left ∧ listener.settle.2 = left.settle.2 ∧
      listener.settle.1.filterMap (·.reaction.event) =
        left.settle.1.filterMap (·.reaction.event) := by
  intro left
  have fired : listener.fire firing = left := by
    rw [fire, same]
  refine ⟨fired, ?_⟩
  by_cases last : firing.consumed = 0 ∨ listener.buffer = []
  · have unchanged : left = listener := by
      rcases last with nothing | empty
      · simp only [left, nothing, List.drop_zero]
      · simp only [left, empty, List.drop_nil]
        rw [← empty]
    rw [unchanged]
    exact ⟨rfl, rfl⟩
  · have settled : listener.settle = (firing :: left.settle.1, left.settle.2) := by
      rw [settle_eq, fires, ← fired]
      exact if_neg fun nothing => last (.inl nothing)
    rw [settled]
    exact ⟨rfl, List.filterMap_cons_none silent⟩

end Listener

/-- No rule of a debugger reports jumps but the one for its location, which stays in the
state it belongs to where there is none. -/
theorem Debugger.rule_cases (debugger : Debugger) (policy : Location.Policy) {state : RunState}
    {rule : Rule} (member : rule ∈ (debugger.rulebook policy).rules state) :
    rule = ⟨debugger.location, .jump policy state⟩ ∨
      ∀ finding location, (rule.react finding).event ≠ some (.jumpTo location) := by
  rcases mem_rules member with located | ⟨notice, noticed, rfl⟩
  · exact .inl located
  · have inspected : ∀ notice ∈ debugger.notices, ∀ location,
        notice.2.event ≠ some (.jumpTo location) := by
      cases debugger <;>
        simp [notices, Reaction.query, Reaction.resume, Reaction.terminate, Reaction.pause]
    exact .inr fun _ location => inspected notice noticed location

namespace Location

/-- Line numbers are not coerced. A location is resolved exactly from texts that tell it:
a file name that is not all white space, and a numeral of a number from 1 to 4294967295,
each with white space around it. The file is the name without this white space where names
are taken as printed. All other texts are a fault; and where they are found by a rule that
reports jumps, it reports nothing and stays in its state, but takes away what it has
matched, and what follows is as if that had not been there. The rules of the debuggers that
report jumps are all of this kind. -/
theorem lines_not_coerced (policy : Policy) (file line : List Char) :
    (∀ location, resolve policy file line = .ok location ↔ Tells policy file line location) ∧
    ((¬ ∃ location, Tells policy file line location) →
      ∃ fault, resolve policy file line = .error fault) ∧
    (∀ location, resolve .verbatim file line = .ok location →
      Text.Bares file location.file.text.toList) ∧
    (∀ (listener : Listener) (firing : Firing) (pattern : Pattern),
      listener.firing? = some firing →
      (listener.book.rules listener.state)[firing.index]? =
        some ⟨pattern, .jump policy listener.state⟩ →
      ∃ finding, Rule.find? ⟨pattern, .jump policy listener.state⟩ listener.buffer = some finding ∧
        (finding.group 1 = file → finding.group 2 = line →
          (¬ ∃ location, Tells policy file line location) →
          let left := { listener with buffer := listener.buffer.drop finding.consumed }
          firing.reaction.event = none ∧ listener.fire firing = left ∧
            listener.settle.2 = left.settle.2 ∧
            listener.settle.1.filterMap (·.reaction.event) =
              left.settle.1.filterMap (·.reaction.event))) ∧
    ∀ (debugger : Debugger) (state : RunState), ∀ rule ∈ (debugger.rulebook policy).rules state,
      rule = ⟨debugger.location, .jump policy state⟩ ∨
        ∀ finding location, (rule.react finding).event ≠ some (.jumpTo location) := by
  have fault_of : (¬ ∃ location, Tells policy file line location) →
      ∃ fault, resolve policy file line = .error fault := by
    intro none
    cases resolved : resolve policy file line with
    | ok location => exact absurd ⟨location, resolve_eq_ok_iff.mp resolved⟩ none
    | error fault => exact ⟨fault, rfl⟩
  refine ⟨fun location => resolve_eq_ok_iff, fault_of, fun location resolves => ?_,
    fun listener firing pattern fires here => ?_,
    fun debugger state rule member => debugger.rule_cases policy member⟩
  · obtain ⟨name, bares, shown⟩ := (resolve_eq_ok_iff.mp resolves).file
    have plain : location.file.text.toList = name := by
      rw [shown]
      exact String.toList_ofList
    exact plain.symm ▸ bares
  · obtain ⟨place, rule, finding, there, found, rfl, -⟩ := Listener.firstFiring_eq_some fires
    rw [Nat.zero_add] at here
    obtain rfl := Option.some.inj (there.symm.trans here)
    refine ⟨finding, found, fun named numbered none => ?_⟩
    obtain ⟨fault, refused⟩ := fault_of none
    have unlocated : finding.location policy = .error fault := by
      rw [Finding.location, named, numbered, refused]
    have stays : Reaction.jump policy listener.state finding = ⟨listener.state, Option.none⟩ := by
      rw [Reaction.jump, unlocated]
    have same := congrArg Reaction.next stays
    have silent := congrArg Reaction.event stays
    exact ⟨silent, Listener.settle_of_dropped fires same silent⟩

/-- A digit of another script is found by the rule of gdb, and is no line number. -/
theorem lines_not_coerced_foreign_digit :
    let listener := (Debugger.gdb.listener .standard).hear
      (Utf8.encode "\x1a\x1a/a.c:٣:1\n".toList)
    let left := { listener with buffer := ['\n'] }
    (¬ ∃ location, Tells .verbatim "/a.c".toList ['٣'] location) ∧
      ∃ firing, listener.firing? = some firing ∧ firing.reaction.event = none ∧
        listener.fire firing = left ∧ listener.settle.2 = left.settle.2 := by
  intro listener left
  have refused : resolve .verbatim "/a.c".toList ['٣'] =
      .error (.badLine "٣" "/a.c" .notADigit) := by decide +kernel
  have untold : ¬ ∃ location, Tells .verbatim "/a.c".toList ['٣'] location :=
    fun ⟨location, tells⟩ => absurd (refused.symm.trans (resolve_eq_ok_iff.mpr tells)) nofun
  obtain ⟨firing, fires⟩ : ∃ firing, listener.firing? = some firing :=
    Option.isSome_iff_exists.mp (by decide +kernel)
  have place : (listener.firing?.map (·.index)) = some 1 := by decide +kernel
  have parts : ((Rule.find? ⟨Debugger.Gdb.location, .jump .verbatim listener.state⟩
      listener.buffer).map fun finding =>
        (finding.group 1, finding.group 2, listener.buffer.drop finding.consumed)) =
      some ("/a.c".toList, ['٣'], ['\n']) := by decide +kernel
  have here : (listener.book.rules listener.state)[firing.index]? =
      some ⟨Debugger.Gdb.location, .jump .verbatim listener.state⟩ := by
    have second : firing.index = 1 := by simpa [fires] using place
    rw [second]
    rfl
  obtain ⟨finding, found, dropped⟩ :=
    (lines_not_coerced .verbatim "/a.c".toList ['٣']).2.2.2.1 listener firing _ fires here
  rw [found, Option.map_some, Option.some.injEq, Prod.mk.injEq, Prod.mk.injEq] at parts
  obtain ⟨named, numbered, rest⟩ := parts
  obtain ⟨silent, fired, settled, -⟩ := dropped named numbered untold
  rw [rest] at fired settled
  exact ⟨untold, firing, fires, silent, fired, settled⟩

end Location

end DebugConsole
