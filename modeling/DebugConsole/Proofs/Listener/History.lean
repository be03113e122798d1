import DebugConsole.Proofs.Listener.Operations

/-!
# The history of a listener

A `History` is what became of the text a listener has heard, told without the
functions that feed it. A `Transition` is a rule that fired, with the state and the
text it fired on; a `Rulebook.Chain` strings transitions together until nothing can
fire; an `Episode` is one chunk with its chain and the text that was given up.

`Listener.exists_history` finds the history of every run, and `History.text_eq`
accounts for every character in it: what was heard is what the transitions took, what
was given up and what is still buffered, in order.
-/

namespace DebugConsole

/-- A pattern can be found at some place of a text. -/
def Pattern.OccursIn (pattern : Pattern) (text : List Char) : Prop :=
  ∃ skipped rest, text = skipped ++ rest ∧
    pattern.node.outcomesAt ((Pattern.Cursor.start []).past skipped rest) ≠ []

/-- The search finds whatever can be found. -/
theorem Rule.find?_eq_none_iff {rule : Rule} {text : List Char} :
    rule.find? text = none ↔ ¬ rule.pattern.OccursIn text := by
  simp only [find?, Option.map_eq_none_iff, Pattern.match?, Pattern.Node.findFrom_eq_none_iff,
    Pattern.OccursIn, Pattern.Cursor.start, not_exists, not_and, ne_eq, Decidable.not_not]

/-- A rule that fired: the state and the text it fired on, its place among the rules of
that state, what it found, and its reaction. -/
structure Transition where
  state : RunState
  text : List Char
  index : Nat
  finding : Finding
  reaction : Reaction

namespace Transition

/-- The text that a transition takes from the front. -/
def segment (transition : Transition) : List Char :=
  transition.text.take transition.finding.consumed

/-- What a transition leaves is the text behind its segment. -/
theorem rest_eq (transition : Transition) {rest : List Char}
    (parts : transition.text = transition.segment ++ rest) :
    rest = transition.text.drop transition.finding.consumed := by
  have both := List.take_append_drop transition.finding.consumed transition.text
  exact (List.append_cancel_left (both.trans parts)).symm

/-- A transition as the listener keeps it. -/
def firing (transition : Transition) : Firing :=
  ⟨transition.index, transition.finding.consumed, transition.reaction⟩

/-- A listener reports what its transitions do. -/
theorem filterMap_firing (transitions : List Transition) :
    (transitions.map firing).filterMap (·.reaction.event) =
      transitions.filterMap (·.reaction.event) :=
  List.filterMap_map

end Transition

namespace Rulebook

/-- No rule of a state occurs in a text. -/
def Quiet (book : Rulebook) (state : RunState) (text : List Char) : Prop :=
  ∀ rule ∈ book.rules state, ¬ rule.pattern.OccursIn text

/-- A rulebook calls for a transition: a rule of the state is found in the text and
reacts, and no rule before it occurs anywhere in the text. -/
structure Takes (book : Rulebook) (transition : Transition) : Prop where
  fires : ∃ rule, (book.rules transition.state)[transition.index]? = some rule ∧
    rule.find? transition.text = some transition.finding ∧
    transition.reaction = rule.react transition.finding
  least : ∀ earlier < transition.index, ∀ rule,
    (book.rules transition.state)[earlier]? = some rule →
      ¬ rule.pattern.OccursIn transition.text

/-- A transition takes no more than the text there is. -/
theorem Takes.consumed_le {book : Rulebook} {transition : Transition}
    (takes : book.Takes transition) :
    transition.finding.consumed ≤ transition.text.length := by
  obtain ⟨_, -, found, -⟩ := takes.fires
  exact Rule.consumed_le found

theorem Takes.length_segment {book : Rulebook} {transition : Transition}
    (takes : book.Takes transition) :
    transition.segment.length = transition.finding.consumed := by
  rw [Transition.segment, List.length_take]
  exact Nat.min_eq_left takes.consumed_le

/-- Transitions one after the other, from a state and a text to a state and a text.
They end where no rule of the state occurs in the text, as none does in a state
without rules, or behind a transition that took nothing. -/
inductive Chain (book : Rulebook) :
    RunState → List Char → List Transition → RunState → List Char → Prop where
  | quiet {state text} (silent : book.Quiet state text) : Chain book state text [] state text
  | idle {transition} (takes : book.Takes transition) (nothing : transition.segment = []) :
      Chain book transition.state transition.text [transition] transition.reaction.next
        transition.text
  | step {transition rest later state text} (takes : book.Takes transition)
      (something : transition.segment ≠ []) (parts : transition.text = transition.segment ++ rest)
      (chain : Chain book transition.reaction.next rest later state text) :
      Chain book transition.state transition.text (transition :: later) state text

end Rulebook

/-- What a chunk led to: the text it added, the transitions, and the text given up. -/
structure Episode where
  heard : List Char
  transitions : List Transition
  lost : Option (List Char)

namespace Episode

/-- The text taken away during an episode, in order. -/
def segments (episode : Episode) : List (List Char) :=
  episode.transitions.map Transition.segment ++ episode.lost.toList

/-- The events of an episode: those of its transitions, and the size of the text given
up. -/
def events (episode : Episode) : List Event :=
  episode.transitions.filterMap (·.reaction.event) ++
    (episode.lost.map fun text => Event.stalled (Utf8.byteLength text)).toList

end Episode

/-- Episodes one after the other, from a state and a text to a state and a text. -/
inductive History (book : Rulebook) :
    RunState → List Char → List Episode → RunState → List Char → Prop where
  | nil {state text} : History book state text [] state text
  | cons {state text episode middle kept later final rest}
      (chain : book.Chain state (text ++ episode.heard) episode.transitions middle
        (episode.lost.getD [] ++ kept))
      (history : History book middle kept later final rest) :
      History book state text (episode :: later) final rest

/-- A chain accounts for its text: what the transitions took, and what is left. -/
theorem Rulebook.Chain.text_eq {book : Rulebook} {state final : RunState}
    {text rest : List Char} {transitions : List Transition}
    (chain : book.Chain state text transitions final rest) :
    text = (transitions.map Transition.segment).flatten ++ rest := by
  induction chain with
  | quiet _ => rfl
  | idle _ nothing => simp [nothing]
  | step _ _ parts _ inductionHypothesis =>
    rw [parts, inductionHypothesis, List.map_cons, List.flatten_cons, List.append_assoc]

/-- Each transition of a chain is called for where it happens. -/
theorem Rulebook.Chain.takes_of_mem {book : Rulebook} {state final : RunState}
    {text rest : List Char} {transitions : List Transition}
    (chain : book.Chain state text transitions final rest) {transition : Transition}
    (member : transition ∈ transitions) : book.Takes transition := by
  induction chain with
  | quiet _ => cases member
  | idle takes _ =>
    obtain rfl := List.mem_singleton.mp member
    exact takes
  | step takes _ _ _ inductionHypothesis =>
    rcases List.mem_cons.mp member with rfl | later
    · exact takes
    · exact inductionHypothesis later

/-- A history accounts for all text: what is heard is taken by a transition, given up or
left, and in that order. -/
theorem History.text_eq {book : Rulebook} {state final : RunState} {text rest : List Char}
    {episodes : List Episode} (history : History book state text episodes final rest) :
    text ++ (episodes.map Episode.heard).flatten =
      (episodes.flatMap Episode.segments).flatten ++ rest := by
  induction history with
  | nil => simp
  | @cons state text episode middle kept later final rest chain history inductionHypothesis =>
    have lost : episode.lost.toList.flatten = episode.lost.getD [] := by
      cases episode.lost <;> simp
    rw [List.map_cons, List.flatten_cons, ← List.append_assoc, chain.text_eq, List.append_assoc,
      List.append_assoc, inductionHypothesis, List.flatMap_cons, List.flatten_append,
      Episode.segments, List.flatten_append, lost]
    simp only [List.append_assoc]

namespace Listener

/-- A firing is a transition that the rulebook calls for. -/
theorem exists_takes {listener : Listener} {firing : Firing}
    (fires : listener.firing? = some firing) :
    ∃ transition : Transition, transition.state = listener.state ∧
      transition.text = listener.buffer ∧ transition.firing = firing ∧
      listener.book.Takes transition ∧ firing.consumed ≤ listener.buffer.length := by
  obtain ⟨place, rule, finding, here, found, rfl, earlier⟩ := firstFiring_eq_some fires
  refine ⟨⟨listener.state, listener.buffer, place, finding, rule.react finding⟩, rfl, rfl, ?_,
    ⟨⟨rule, here, found, rfl⟩, fun before less other there => ?_⟩, Rule.consumed_le found⟩
  · simp only [Transition.firing, Nat.zero_add]
  · exact Rule.find?_eq_none_iff.mp (earlier before other less there)

/-- Settling goes through a chain, and changes the state and the text only. -/
theorem settleOnto_chain (fired : List Firing) (listener : Listener) :
    ∃ transitions : List Transition, ∃ state text,
      listener.settleOnto fired =
        (fired.reverse ++ transitions.map Transition.firing,
          { listener with state := state, buffer := text }) ∧
      listener.book.Chain listener.state listener.buffer transitions state text := by
  fun_induction settleOnto fired listener with
  | case1 fired listener none =>
    refine ⟨[], listener.state, listener.buffer, by simp, .quiet fun rule member => ?_⟩
    exact Rule.find?_eq_none_iff.mp (firstFiring_eq_none_iff.mp none rule member)
  | case2 fired listener firing fires last =>
    obtain ⟨transition, state, text, rfl, takes, within⟩ := exists_takes fires
    have nothing : transition.segment = [] := by
      rw [Transition.segment, text, List.take_eq_nil_iff]
      exact last
    have stays : listener.fire transition.firing =
        { listener with state := transition.reaction.next, buffer := listener.buffer } := by
      have all : listener.buffer.drop transition.finding.consumed = listener.buffer := by
        have parts := List.take_append_drop transition.finding.consumed listener.buffer
        rwa [← text, ← Transition.segment, nothing, List.nil_append, text] at parts
      simp only [fire, Transition.firing, all]
    refine ⟨[transition], transition.reaction.next, listener.buffer, ?_, ?_⟩
    · rw [stays, List.reverse_cons, List.map_singleton]
    · rw [← state, ← text]
      exact .idle takes nothing
  | case3 fired listener firing fires going inductionHypothesis =>
    obtain ⟨transition, state, text, rfl, takes, within⟩ := exists_takes fires
    obtain ⟨later, final, rest, settled, chain⟩ := inductionHypothesis
    refine ⟨transition :: later, final, rest, ?_, ?_⟩
    · rw [settled, List.reverse_cons, List.map_cons, List.append_assoc, List.singleton_append]
      rfl
    · rw [← state, ← text]
      refine .step takes ?_ (List.take_append_drop _ _).symm ?_
      · rw [Transition.segment, text, ne_eq, List.take_eq_nil_iff]
        exact going
      · rw [text]
        exact chain

theorem settle_chain (listener : Listener) :
    ∃ transitions : List Transition, ∃ state text,
      listener.settle =
        (transitions.map Transition.firing, { listener with state := state, buffer := text }) ∧
      listener.book.Chain listener.state listener.buffer transitions state text :=
  settleOnto_chain [] listener

/-- Feeding a chunk is an episode: the chunk is heard up to a seam, a chain follows, and
the text that is left over may lose its front, but no end of it that there is room for. -/
theorem feed_episode (listener : Listener) (chunk : List UInt8) :
    ∃ episode : Episode, ∃ complete held middle kept,
      listener.pending ++ chunk = complete ++ held ∧
      Utf8.heldBack (listener.pending ++ chunk) = held.length ∧ Utf8.Fragment held ∧
      episode.heard = Utf8.lossy complete ∧
      listener.book.Chain listener.state (listener.buffer ++ episode.heard) episode.transitions
        middle (episode.lost.getD [] ++ kept) ∧
      (∀ ending, ending <:+ episode.lost.getD [] ++ kept →
        Utf8.byteLength ending ≤ listener.bounds.keepTail → ending <:+ kept) ∧
      listener.feed chunk = (episode.events,
        { listener with state := middle, buffer := kept, pending := held }) := by
  obtain ⟨complete, held, shape, amount, fragment, heard⟩ := listener.hear_eq chunk
  obtain ⟨transitions, state, text, settled, chain⟩ := (listener.hear chunk).settle_chain
  rw [heard] at settled chain
  dsimp only at settled chain
  have events := Transition.filterMap_firing transitions
  rcases trim_eq { listener with state := state, buffer := text, pending := held } with
    ⟨-, whole⟩ | ⟨-, lost, parts, cut⟩
  · refine ⟨⟨Utf8.lossy complete, transitions, none⟩, complete, held, state, text, shape, amount,
      fragment, rfl, chain, fun _ ends _ => ends, ?_⟩
    simp only [feed, heard, settled, whole, events]
    rfl
  · dsimp only at parts cut
    refine ⟨⟨Utf8.lossy complete, transitions, some lost⟩, complete, held, state,
      longestEnd listener.bounds.keepTail text, shape, amount, fragment, rfl, ?_, ?_, ?_⟩
    · rw [Option.getD_some, ← parts]
      exact chain
    · rw [Option.getD_some, ← parts]
      exact fun _ ends fits => suffix_longestEnd ends fits
    · simp only [feed, heard, settled, cut, events]
      rfl

theorem feedAll_cons (listener : Listener) (chunk : List UInt8) (chunks : List (List UInt8)) :
    listener.feedAll (chunk :: chunks) =
      ((listener.feed chunk).1 :: ((listener.feed chunk).2.feedAll chunks).1,
        ((listener.feed chunk).2.feedAll chunks).2) := rfl

/-- Every run has a history, which has heard all bytes but those held back. -/
theorem exists_history (listener : Listener) (chunks : List (List UInt8)) :
    ∃ episodes : List Episode, ∃ complete,
      listener.pending ++ chunks.flatten = complete ++ (listener.feedAll chunks).2.pending ∧
      (episodes.map Episode.heard).flatten = Utf8.lossy complete ∧
      (listener.feedAll chunks).1 = episodes.map Episode.events ∧
      History listener.book listener.state listener.buffer episodes
        (listener.feedAll chunks).2.state (listener.feedAll chunks).2.buffer := by
  induction chunks generalizing listener with
  | nil => exact ⟨[], [], by simp [feedAll], Utf8.lossy_nil.symm, rfl, .nil⟩
  | cons chunk chunks inductionHypothesis =>
    obtain ⟨episode, complete, held, middle, kept, shape, amount, fragment, heard, chain, -, fed⟩ :=
      listener.feed_episode chunk
    obtain ⟨episodes, complete', shape', heard', events, history⟩ :=
      inductionHypothesis (listener.feed chunk).2
    rw [fed] at shape' history
    dsimp only at shape' history
    rw [feedAll_cons, fed]
    have seam : Utf8.Seam complete complete' :=
      (fragment.seam (shape ▸ amount) chunks.flatten).of_part ⟨_, shape'.symm⟩
    refine ⟨episode :: episodes, complete ++ complete', ?_, ?_, ?_, .cons chain history⟩
    · rw [List.flatten_cons, ← List.append_assoc, shape, List.append_assoc, shape',
        List.append_assoc]
    · rw [List.map_cons, List.flatten_cons, heard, heard', Utf8.lossy_append seam]
    · rw [List.map_cons, ← events, fed]

/-- The trace law. Every run from fresh has a history, whose events are those reported:
the bytes received, less those held back, decode to exactly what the transitions took
and what was given up, in order, and the text still buffered. -/
theorem fresh_feedAll_history (book : Rulebook) (state : RunState) (bounds : Bounds)
    (chunks : List (List UInt8)) :
    ∃ episodes : List Episode, ∃ complete,
      History book state ['\n'] episodes
        ((fresh book state bounds).feedAll chunks).2.state
        ((fresh book state bounds).feedAll chunks).2.buffer ∧
      ((fresh book state bounds).feedAll chunks).1 = episodes.map Episode.events ∧
      chunks.flatten = complete ++ ((fresh book state bounds).feedAll chunks).2.pending ∧
      '\n' :: Utf8.lossy complete =
        (episodes.flatMap Episode.segments).flatten ++
          ((fresh book state bounds).feedAll chunks).2.buffer := by
  obtain ⟨episodes, complete, shape, heard, events, history⟩ :=
    (fresh book state bounds).exists_history chunks
  refine ⟨episodes, complete, history, events, shape, ?_⟩
  have total := history.text_eq
  rwa [heard] at total

end Listener

end DebugConsole
