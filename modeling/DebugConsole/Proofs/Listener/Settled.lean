import DebugConsole.Proofs.Listener.History
import DebugConsole.Proofs.Pattern.Spelling

/-!
# Listeners between chunks

The rules of the debuggers are `Rule.Tidy`: what they take is a `Compact` text, which
reaches over no line feed but one it starts with, and all that they look at behind it is
one more character. With tidy rules a listener is `Settled` between chunks: nothing that
could fire is left in its text. A chain of transitions then ends because nothing can
fire, never because a rule took nothing.
-/

namespace DebugConsole

open Pattern

/-- A plain pattern occurs where it is spelled. -/
theorem Pattern.occursIn_iff_spells {pattern : Pattern} (isPlain : pattern.node.plain = true)
    {text : List Char} :
    pattern.OccursIn text ↔ ∃ skipped read rest, text = skipped ++ (read ++ rest) ∧
      pattern.node.Spells read rest := by
  constructor
  · rintro ⟨skipped, behind, rfl, some⟩
    obtain ⟨reached, member⟩ := List.exists_mem_of_ne_nil _ some
    obtain ⟨read, reads⟩ := Node.reads_of_mem_outcomes isPlain member
    exact ⟨skipped, read, reached.cursor.rest, congrArg (skipped ++ ·) reads.text, reads.spells⟩
  · rintro ⟨skipped, read, rest, rfl, spells⟩
    exact ⟨skipped, read ++ rest, rfl, Node.outcomesAt_ne_nil isPlain rfl spells⟩

/-- A text that reaches over no line feed but one it starts with, and that has no
replacement character at either end. -/
structure Compact (text : List Char) : Prop where
  ne_nil : text ≠ []
  head : text.head? ≠ some Utf8.replacement
  last : text.getLast? ≠ some Utf8.replacement
  unbroken : '\n' ∉ text.tail

/-- A rule that takes a compact text and leaves `kept` more characters of its match in
place. Its match may have to end the text, but depends on nothing else behind it. -/
structure Rule.Tidy (rule : Rule) (kept : Nat) : Prop where
  plain : rule.pattern.node.plain = true
  kept_le : kept ≤ 1
  core : ∀ {read rest}, rule.pattern.node.Spells read rest →
    ∃ core last, read = core ++ last ∧ last.length = kept ∧ Compact core
  carry : ∀ {read rest}, rule.pattern.node.Spells read rest → rest ≠ [] →
    ∀ other, rule.pattern.node.Spells read other
  consumed : ∀ {text finding}, rule.find? text = some finding →
    finding.consumed + kept = finding.found.span.stop

/-- What a tidy rule takes when it fires. -/
theorem Rule.Tidy.find?_eq {rule : Rule} {kept : Nat} (tidy : rule.Tidy kept) {text : List Char}
    {finding : Finding} (success : rule.find? text = some finding) :
    ∃ skipped core last rest, text = skipped ++ (core ++ (last ++ rest)) ∧
      rule.pattern.node.Spells (core ++ last) rest ∧ Compact core ∧ last.length = kept ∧
      finding.found.span.start = skipped.length ∧
      finding.consumed = skipped.length + core.length := by
  obtain ⟨-, -, skipped, read, rest, shape, spells, span, -⟩ := rule.find?_spells tidy.plain success
  obtain ⟨core, last, rfl, kept, compact⟩ := tidy.core spells
  refine ⟨skipped, core, last, rest, by rw [shape, List.append_assoc], spells, compact, kept,
    by rw [span], ?_⟩
  have stop := tidy.consumed success
  rw [span, List.length_append] at stop
  dsimp only at stop
  omega

namespace Rulebook

/-- Every rule is tidy. -/
def Tidy (book : Rulebook) : Prop :=
  ∀ state, ∀ rule ∈ book.rules state, ∃ kept, rule.Tidy kept

/-- The rules lead from some states to none but these. -/
def Closed (book : Rulebook) (states : RunState → Prop) : Prop :=
  ∀ state, states state → ∀ rule ∈ book.rules state, ∀ finding, states (rule.react finding).next

variable {book : Rulebook}

/-- Nothing occurs in a part of a quiet text that was not there before: a plain pattern
does not see what is cut off in front of it. -/
theorem Quiet.suffix (tidy : book.Tidy) {state : RunState} {lost kept : List Char}
    (quiet : book.Quiet state (lost ++ kept)) : book.Quiet state kept := by
  intro rule member occurs
  obtain ⟨_, isTidy⟩ := tidy state rule member
  obtain ⟨skipped, read, rest, rfl, spells⟩ := (occursIn_iff_spells isTidy.plain).mp occurs
  exact quiet rule member
    ((occursIn_iff_spells isTidy.plain).mpr ⟨lost ++ skipped, read, rest, by simp, spells⟩)

theorem Tidy.quiet_nil (tidy : book.Tidy) (state : RunState) : book.Quiet state [] := by
  intro rule member occurs
  obtain ⟨_, isTidy⟩ := tidy state rule member
  obtain ⟨skipped, read, rest, shape, spells⟩ := (occursIn_iff_spells isTidy.plain).mp occurs
  obtain ⟨core, last, rfl, -, compact⟩ := isTidy.core spells
  have empty : core = [] := by
    have total := congrArg List.length shape
    simp only [List.length_nil, List.length_append] at total
    exact List.length_eq_zero_iff.mp (by omega)
  exact compact.ne_nil empty

/-- A transition of a tidy rulebook takes some text. -/
theorem Takes.segment_ne_nil (tidy : book.Tidy) {transition : Transition}
    (takes : book.Takes transition) : transition.segment ≠ [] := by
  obtain ⟨rule, here, found, -⟩ := takes.fires
  obtain ⟨_, isTidy⟩ := tidy _ rule (List.mem_of_getElem? here)
  obtain ⟨skipped, core, last, rest, shape, -, compact, -, -, consumed⟩ := isTidy.find?_eq found
  have some := List.length_pos_iff.mpr compact.ne_nil
  apply List.ne_nil_of_length_pos
  rw [takes.length_segment]
  omega

/-- A chain of a tidy rulebook ends because nothing can fire. -/
theorem Chain.quiet_rest (tidy : book.Tidy) {state final : RunState} {text rest : List Char}
    {transitions : List Transition} (chain : book.Chain state text transitions final rest) :
    book.Quiet final rest := by
  induction chain with
  | quiet silent => exact silent
  | idle takes nothing => exact absurd nothing (takes.segment_ne_nil tidy)
  | step _ _ _ _ inductionHypothesis => exact inductionHypothesis

/-- On a quiet text there is nothing to do. -/
theorem Chain.of_quiet {state final : RunState} {text rest : List Char}
    {transitions : List Transition} (chain : book.Chain state text transitions final rest)
    (quiet : book.Quiet state text) : transitions = [] ∧ final = state ∧ rest = text := by
  have never : ∀ {transition : Transition}, transition.state = state → transition.text = text →
      ¬ book.Takes transition := by
    rintro transition rfl rfl takes
    obtain ⟨rule, here, found, -⟩ := takes.fires
    have missed := Rule.find?_eq_none_iff.mpr (quiet rule (List.mem_of_getElem? here))
    rw [found] at missed
    cases missed
  cases chain with
  | quiet _ => exact ⟨rfl, rfl, rfl⟩
  | idle takes _ => exact absurd takes (never rfl rfl)
  | step takes _ _ _ => exact absurd takes (never rfl rfl)

theorem Closed.takes {states : RunState → Prop} (closed : book.Closed states)
    {transition : Transition} (takes : book.Takes transition) (start : states transition.state) :
    states transition.reaction.next := by
  obtain ⟨rule, here, -, reacts⟩ := takes.fires
  rw [reacts]
  exact closed _ start rule (List.mem_of_getElem? here) _

theorem Chain.final_state {states : RunState → Prop} (closed : book.Closed states)
    {state final : RunState} {text rest : List Char} {transitions : List Transition}
    (chain : book.Chain state text transitions final rest) (start : states state) :
    states final := by
  induction chain with
  | quiet _ => exact start
  | idle takes _ => exact closed.takes takes start
  | step takes _ _ _ inductionHypothesis =>
    exact inductionHypothesis (closed.takes takes start)

/-- The states in between are none but those that the rules do not lead out of. -/
theorem Chain.visited {states : RunState → Prop} (closed : book.Closed states)
    {state final : RunState} {text rest : List Char} {transitions : List Transition}
    (chain : book.Chain state text transitions final rest) (start : states state) :
    ∀ transition ∈ transitions, states transition.reaction.next := by
  induction chain with
  | quiet _ => simp
  | idle takes _ => simpa using closed.takes takes start
  | step takes _ _ _ inductionHypothesis =>
    have next := closed.takes takes start
    exact List.forall_mem_cons.mpr ⟨next, inductionHypothesis next⟩

end Rulebook

namespace Listener

/-- Nothing that could fire is left in the text of a listener, and the bytes it holds
back are a fragment of a character. -/
structure Settled (listener : Listener) : Prop where
  quiet : listener.book.Quiet listener.state listener.buffer
  fragment : Utf8.Fragment listener.pending

@[simp] theorem feed_book (listener : Listener) (chunk : List UInt8) :
    (listener.feed chunk).2.book = listener.book := by
  obtain ⟨_, _, _, _, _, -, -, -, -, -, -, fed⟩ := listener.feed_episode chunk
  rw [fed]

@[simp] theorem feed_bounds (listener : Listener) (chunk : List UInt8) :
    (listener.feed chunk).2.bounds = listener.bounds := by
  obtain ⟨_, _, _, _, _, -, -, -, -, -, -, fed⟩ := listener.feed_episode chunk
  rw [fed]

theorem settled_feed {listener : Listener} (tidy : listener.book.Tidy) (chunk : List UInt8) :
    (listener.feed chunk).2.Settled := by
  obtain ⟨episode, _, held, _, kept, -, -, fragment, -, chain, -, fed⟩ :=
    listener.feed_episode chunk
  rw [fed]
  exact ⟨(chain.quiet_rest tidy).suffix tidy, fragment⟩

/-- A settled listener stays settled, keeps its rules and its bounds, and never leaves
states that the rules do not lead out of. -/
theorem Settled.feedAll {listener : Listener} (settled : listener.Settled)
    (tidy : listener.book.Tidy) {states : RunState → Prop} (closed : listener.book.Closed states)
    (start : states listener.state) (chunks : List (List UInt8)) :
    (listener.feedAll chunks).2.Settled ∧ (listener.feedAll chunks).2.book = listener.book ∧
      (listener.feedAll chunks).2.bounds = listener.bounds ∧
      states (listener.feedAll chunks).2.state := by
  induction chunks generalizing listener with
  | nil => exact ⟨settled, rfl, rfl, start⟩
  | cons chunk chunks inductionHypothesis =>
    have next : states (listener.feed chunk).2.state := by
      obtain ⟨_, _, _, _, _, -, -, -, -, chain, -, fed⟩ := listener.feed_episode chunk
      rw [fed]
      exact chain.final_state closed start
    obtain ⟨settled, book, bounds, final⟩ := inductionHypothesis (settled_feed tidy chunk)
      (by rwa [feed_book]) (by rwa [feed_book]) next
    rw [feed_book] at book
    rw [feed_bounds] at bounds
    exact ⟨settled, book, bounds, final⟩

end Listener

end DebugConsole
