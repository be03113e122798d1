import DebugConsole.Proofs.Listener.Arrival

/-!
# Every feed ends

Rules may lead back to states that were left, and what they match may stay in the text, so
the progress of a feed is in the length of its text alone. A transition that takes something
leaves a shorter text, and one that takes nothing is the last. A feed therefore has at most
as many transitions as its text has bytes, and one more (`Rulebook.Chain.length_le`).

`Listener.settleWithin` settles without being known to end: it looks for a rule that fires
again and again, minds nothing but whether the last one took anything, and has no result when
it runs out of passes. For any rules at all, it has one within as many passes as the text has
bytes, and one more (`Listener.feed_ends`).
-/

namespace DebugConsole

namespace Transition

/-- The text that a transition leaves. -/
def left (transition : Transition) : List Char :=
  transition.text.drop transition.finding.consumed

/-- What a transition leaves takes fewer bytes than the text it fired on. -/
def Shortens (transition : Transition) : Prop :=
  Utf8.byteLength transition.left < Utf8.byteLength transition.text

theorem segment_append_left (transition : Transition) :
    transition.segment ++ transition.left = transition.text :=
  List.take_append_drop _ _

/-- Whatever is taken makes the text shorter. -/
theorem shortens_iff (transition : Transition) :
    transition.Shortens ↔ transition.segment ≠ [] := by
  have parts := congrArg Utf8.byteLength transition.segment_append_left
  rw [Utf8.byteLength_append] at parts
  unfold Shortens
  constructor
  · intro shorter nothing
    rw [nothing, Utf8.byteLength_nil] at parts
    omega
  · intro something
    have characters := List.length_pos_iff.mpr something
    have bytes := Utf8.length_le_byteLength transition.segment
    omega

end Transition

namespace Rulebook

variable {book : Rulebook} {state final : RunState} {text rest : List Char}
  {transitions : List Transition}

namespace Chain

/-- Every transition of a chain but the last shortens the text. -/
theorem shortens (chain : book.Chain state text transitions final rest) :
    ∀ transition ∈ transitions.dropLast, transition.Shortens := by
  induction chain with
  | quiet _ => simp
  | idle _ _ => simp
  | @step transition _ later _ _ _ something _ _ inductionHypothesis =>
    cases later with
    | nil => simp
    | cons next later =>
      rw [List.dropLast_cons_cons]
      exact List.forall_mem_cons.mpr ⟨transition.shortens_iff.mpr something, inductionHypothesis⟩

/-- A transition that takes nothing ends its chain. -/
theorem last_of_nothing (chain : book.Chain state text transitions final rest)
    {earlier later : List Transition} {transition : Transition}
    (place : transitions = earlier ++ transition :: later)
    (nothing : transition.finding.consumed = 0) : later = [] := by
  by_contra more
  have early : transition ∈ transitions.dropLast := by
    rw [place, List.dropLast_append_of_ne_nil (List.cons_ne_nil _ _),
      List.dropLast_cons_of_ne_nil more]
    exact List.mem_append_right _ List.mem_cons_self
  have same : transition.left = transition.text := by
    rw [Transition.left, nothing, List.drop_zero]
  have shorter := chain.shortens transition early
  rw [Transition.Shortens, same] at shorter
  exact Nat.lt_irrefl _ shorter

/-- Each transition but the last takes a byte, so there are at most as many as there are
bytes, and the last. -/
theorem length_le (chain : book.Chain state text transitions final rest) :
    transitions.length ≤ Utf8.byteLength text + 1 := by
  induction chain with
  | quiet _ => exact Nat.zero_le _
  | idle _ _ => exact Nat.le_add_left 1 _
  | @step transition _ later _ _ _ something parts _ inductionHypothesis =>
    have shorter := transition.shortens_iff.mpr something
    rw [Transition.Shortens, Transition.left, ← transition.rest_eq parts] at shorter
    rw [List.length_cons]
    omega

end Chain

end Rulebook

namespace Listener

/-! ## A limited number of passes -/

/-- Settling with a limit on how often a rule is looked for. It goes on while what fires takes
some text, and has no result if that is not over within the limit. -/
def settleWithin : (passes : Nat) → Listener → Option (List Firing × Listener)
  | 0, _ => none
  | passes + 1, listener =>
    match listener.firing? with
    | none => some ([], listener)
    | some firing =>
      if firing.consumed = 0 then some ([firing], listener.fire firing)
      else
        (settleWithin passes (listener.fire firing)).map fun (later, settled) =>
          (firing :: later, settled)

/-- Feeding a chunk with a limit on how often a rule is looked for. -/
def feedWithin (passes : Nat) (listener : Listener) (chunk : List UInt8) :
    Option (List Event × Listener) :=
  ((listener.hear chunk).settleWithin passes).map fun (fired, settled) =>
    let (discarded, trimmed) := settled.trim
    (fired.filterMap (·.reaction.event) ++ (discarded.map Event.stalled).toList, trimmed)

/-- Once a rule has taken some text, less of it is buffered. -/
theorem bufferedBytes_fire_lt {listener : Listener} {firing : Firing}
    (fires : listener.firing? = some firing) (something : firing.consumed ≠ 0) :
    (listener.fire firing).bufferedBytes < listener.bufferedBytes := by
  obtain ⟨transition, -, text, rfl, takes, -⟩ := exists_takes fires
  have taken : transition.segment ≠ [] := by
    rw [← List.length_pos_iff, takes.length_segment]
    exact Nat.pos_of_ne_zero something
  have shorter := transition.shortens_iff.mpr taken
  rwa [Transition.Shortens, Transition.left, text] at shorter

/-- With a pass for each byte, and one more, there is always a result, and it is that of
settling. -/
theorem settleWithin_eq {passes : Nat} {listener : Listener}
    (enough : listener.bufferedBytes < passes) :
    listener.settleWithin passes = some listener.settle := by
  -- A rule may lead to any state, so only the text gets shorter and the rest is left open.
  induction passes generalizing listener with
  | zero => exact absurd enough (Nat.not_lt_zero _)
  | succ passes inductionHypothesis =>
    rw [settleWithin, settle_eq]
    cases fires : listener.firing? with
    | none => rfl
    | some firing =>
      by_cases nothing : firing.consumed = 0
      · simp only [nothing, if_true]
      · have shorter := bufferedBytes_fire_lt fires nothing
        have later : (listener.fire firing).settleWithin passes =
            some (listener.fire firing).settle := inductionHypothesis (by omega)
        simp only [nothing, if_false, later, Option.map_some]

theorem feedWithin_eq {passes : Nat} {listener : Listener} {chunk : List UInt8}
    (enough : (listener.hear chunk).bufferedBytes < passes) :
    listener.feedWithin passes chunk = some (listener.feed chunk) := by
  rw [feedWithin, settleWithin_eq enough]
  rfl

/-- A listener reports no more news than rules fire. -/
theorem news_length_le (listener : Listener) (chunk : List UInt8) :
    ((listener.feed chunk).1.filter Event.isNews).length ≤
      (listener.hear chunk).settle.1.length := by
  rw [feed, List.filter_append, Event.filter_isNews_stalled _ fun discarded => discarded,
    List.append_nil]
  exact Nat.le_trans (List.length_filter_le _ _) (List.length_filterMap_le _ _)

/-- Every feed ends, whatever the rules, whatever has been heard before and whatever the chunk.
With a pass for each byte of the text once the chunk has been heard, and one more, going on
until nothing fires or what fires takes nothing has a result, which is that of feeding.

The rules that fire are a chain of transitions. Each takes a part of the text from the front,
each but the last leaves fewer bytes, and one that takes nothing is the last. So there are no
more transitions than passes, and no more events, but for text given up. -/
theorem feed_ends (listener : Listener) (chunk : List UInt8) :
    let heard := listener.hear chunk
    let settled := heard.settle
    let fed := listener.feed chunk
    let most := heard.bufferedBytes + 1
    (∀ passes, most ≤ passes → listener.feedWithin passes chunk = some fed) ∧
    (fed.1.filter Event.isNews).length ≤ most ∧
    ∃ transitions : List Transition,
      settled.1 = transitions.map Transition.firing ∧
      listener.book.Chain listener.state heard.buffer transitions settled.2.state
        settled.2.buffer ∧
      transitions.length ≤ most ∧
      (∀ transition ∈ transitions, transition.finding.consumed ≤ transition.text.length) ∧
      (∀ transition ∈ transitions.dropLast, transition.Shortens) ∧
      ∀ earlier transition later, transitions = earlier ++ transition :: later →
        transition.finding.consumed = 0 → later = [] := by
  intro heard settled fed most
  obtain ⟨transitions, state, text, settles, chain⟩ := heard.settle_chain
  have fired : settled.1 = transitions.map Transition.firing := congrArg Prod.fst settles
  have bounded : transitions.length ≤ most := chain.length_le
  have told : (fed.1.filter Event.isNews).length ≤ transitions.length := by
    have news : (fed.1.filter Event.isNews).length ≤ settled.1.length :=
      listener.news_length_le chunk
    rwa [fired, List.length_map] at news
  have reached : settled.2 = { heard with state := state, buffer := text } :=
    congrArg Prod.snd settles
  refine ⟨fun passes => feedWithin_eq, Nat.le_trans told bounded, transitions, fired, ?_, bounded,
    fun transition member => (chain.takes_of_mem member).consumed_le, chain.shortens,
    fun earlier transition later => chain.last_of_nothing⟩
  rw [reached]
  exact chain

/-- Two states lead to each other on any character and on none at all. Two characters then make
for three transitions, the last of which takes nothing: two passes are not enough, and three
are. -/
theorem feed_ends_back_and_forth :
    let anything : Pattern := ⟨"(?s:.)?", .optional true (.set .all), []⟩
    let book : Rulebook :=
      ⟨[(.paused, ⟨anything, fun _ => ⟨.running, some .resumedRunning⟩⟩),
        (.running, ⟨anything, fun _ => ⟨.paused, some .readyForQuery⟩⟩)]⟩
    let listener := fresh book .paused .standard
    (listener.hear [120]).bufferedBytes + 1 ≤ 3 ∧ listener.feedWithin 2 [120] = none ∧
      listener.feedWithin 3 [120] = some (listener.feed [120]) ∧
      (listener.feed [120]).1 = [.resumedRunning, .readyForQuery, .resumedRunning] ∧
      (listener.hear [120]).settle.1.map Firing.consumed = [1, 1, 0] := by
  intro anything book listener
  have enough : (listener.hear [120]).bufferedBytes + 1 ≤ 3 := by decide +kernel
  have short : (listener.feedWithin 2 [120]).isNone := by decide +kernel
  exact ⟨enough, Option.isNone_iff_eq_none.mp short, (listener.feed_ends [120]).1 3 enough,
    by decide +kernel, by decide +kernel⟩

end Listener

end DebugConsole
