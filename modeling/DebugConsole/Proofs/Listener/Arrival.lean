import DebugConsole.Proofs.Listener.Settled

/-!
# Texts that arrive in pieces

A rulebook `Expects` a text, which starts with a line feed, if it has one answer to it:
some rule occurs in it, and whichever rule fires on as much of it as has arrived gives
that answer and leaves nothing that could fire again. `Rulebook.Expects.feedAll` says
that a settled listener gives this answer, whatever it has heard before and however the
text is cut into pieces.

The listener is `Waiting` until it has answered: its text is some front in which nothing
occurs and the part of the stream that has arrived since. Whatever starts in the front is
compact, so it does not reach over the line feed, and the most that can still happen in
front of the awaited text is that one more character completes a match there. What such a
match takes is exactly the front.
-/

namespace DebugConsole

open Pattern

/-- An event other than of text given up. -/
def Event.isNews : Event → Bool
  | .stalled _ => false
  | _ => true

/-- Text given up is no news. -/
theorem Event.filter_isNews_stalled {Lost : Type} (lost : Option Lost) (bytes : Lost → Nat) :
    (lost.map fun text => Event.stalled (bytes text)).toList.filter Event.isNews = [] := by
  cases lost <;> rfl

/-! ## In front of an awaited text -/

section Front

variable {arrived due marks later : List Char}
  (stream : arrived ++ due = marks ++ '\n' :: later)
  (replaced : ∀ character ∈ marks, character = Utf8.replacement)
include stream replaced

/-- A compact text that starts in front of an awaited text ends there. -/
theorem Compact.ends_in_front {core skipped behind front : List Char} (compact : Compact core)
    (shape : skipped ++ (core ++ behind) = front ++ arrived)
    (begins : skipped.length < front.length) :
    ∃ more, front = skipped ++ (core ++ more) ∧ behind = more ++ arrived := by
  rcases List.append_eq_append_iff.mp shape with ⟨start, rfl, split⟩ | ⟨start, rfl, -⟩
  swap
  · rw [List.length_append] at begins
    omega
  rcases List.append_eq_append_iff.mp split with ⟨more, rfl, behind⟩ | ⟨beyond, rfl, rfl⟩
  · exact ⟨more, rfl, behind⟩
  · by_cases none : beyond = []
    · exact ⟨[], by simp [none], by simp [none]⟩
    have some : start ≠ [] := by
      rintro rfl
      simp at begins
    have marked : ∀ rest, marks ≠ beyond ++ rest := by
      rintro rest rfl
      apply compact.last
      rw [List.getLast?_append_of_ne_nil _ none, List.getLast?_eq_some_getLast none,
        replaced _ (List.mem_append_left _ (List.getLast_mem none))]
    rw [List.append_assoc] at stream
    rcases List.append_eq_append_iff.mp stream with ⟨rest, impossible, -⟩ | ⟨rest, rfl, tails⟩
    · exact absurd impossible (marked rest)
    · cases rest with
      | nil => exact absurd (by simp) (marked [])
      | cons first rest =>
        obtain ⟨rfl, -⟩ := List.cons.inj tails
        refine absurd ?_ compact.unbroken
        rw [List.tail_append_of_ne_nil some]
        simp

/-- A tidy rule that does not occur in a front but fires on a match that starts there
takes exactly the front. -/
theorem Rule.Tidy.consumed_front {rule : Rule} {kept : Nat} (tidy : rule.Tidy kept)
    {front : List Char} (quiet : ¬ rule.pattern.OccursIn front) {finding : Finding}
    (found : rule.find? (front ++ arrived) = some finding)
    (begins : finding.found.span.start < front.length) :
    kept ≠ 0 ∧ finding.consumed = front.length := by
  obtain ⟨skipped, core, last, rest, shape, spells, compact, size, start, consumed⟩ :=
    tidy.find?_eq found
  rw [start] at begins
  obtain ⟨more, rfl, behind⟩ := compact.ends_in_front stream replaced shape.symm begins
  have bound := tidy.kept_le
  have unspelled : ∀ rest', more ≠ last ++ rest' := by
    rintro rest' rfl
    refine quiet ((occursIn_iff_spells tidy.plain).mpr
      ⟨skipped, core ++ last, rest', by simp, ?_⟩)
    have rests : rest = rest' ++ arrived := by simpa using behind
    by_cases ended : rest = []
    · obtain ⟨rfl, rfl⟩ := List.append_eq_nil_iff.mp (rests.symm.trans ended)
      rwa [ended] at spells
    · exact tidy.carry spells ended rest'
  rcases List.append_eq_append_iff.mp behind with ⟨rest', impossible, -⟩ | ⟨due, parts, -⟩
  · exact absurd impossible (unspelled rest')
  · have short : due ≠ [] := by
      rintro rfl
      exact unspelled [] (by simpa using parts.symm)
    have one := List.length_pos_iff.mpr short
    have total := congrArg List.length parts
    rw [List.length_append, size] at total
    have exhausted : more = [] := List.length_eq_zero_iff.mp (by omega)
    refine ⟨by omega, ?_⟩
    rw [consumed, exhausted, List.append_nil, List.length_append]

end Front

namespace Rulebook

/-- Whatever part of a text has arrived, no rule of a state occurs in it. -/
def Inert (book : Rulebook) (state : RunState) (text : List Char) : Prop :=
  ∀ arrived, arrived <+: text → book.Quiet state arrived

/-- A rulebook has one answer to a text behind a line feed, in each of the states that
await it. A rule of these states that leaves a character in place may fire in front of
the text, where it leads to such a state again and reports nothing but `carried` events. -/
structure Expects (book : Rulebook) (awaiting : RunState → Prop) (carried : Event → Prop)
    (later : List Char) (answer : Reaction) : Prop where
  tidy : book.Tidy
  stays : ∀ state, awaiting state → ∀ rule ∈ book.rules state, rule.Tidy 0 ∨ ∀ finding,
    awaiting (rule.react finding).next ∧ ∀ event ∈ (rule.react finding).event, carried event
  news : ∀ event, carried event ∨ event ∈ answer.event → event.isNews = true
  occurs : ∀ state, awaiting state → ∃ rule ∈ book.rules state, ∃ skipped read rest,
    '\n' :: later = skipped ++ (read ++ rest) ∧ rule.pattern.node.Spells read rest
  answers : ∀ state, awaiting state → ∀ rule ∈ book.rules state, ∀ finding ahead part due,
    part ++ due = '\n' :: later → rule.find? (ahead ++ part) = some finding →
    ahead.length ≤ finding.found.span.start → rule.react finding = answer ∧
      book.Inert answer.next ((ahead ++ part).drop finding.consumed ++ due)

/-- The text of a listener that waits: a front in which nothing occurs, and what has
arrived of some replacement characters and the awaited text. -/
structure Waiting (book : Rulebook) (awaiting : RunState → Prop) (later : List Char)
    (state : RunState) (text due : List Char) : Prop where
  here : awaiting state
  quiet : book.Quiet state text
  place : ∃ front arrived marks, text = front ++ arrived ∧
    arrived ++ due = marks ++ '\n' :: later ∧
    (∀ character ∈ marks, character = Utf8.replacement) ∧ book.Quiet state front

variable {book : Rulebook} {awaiting : RunState → Prop} {carried : Event → Prop}
  {later : List Char} {answer : Reaction}

theorem Inert.suffix (tidy : book.Tidy) {state : RunState} {lost kept : List Char}
    (inert : book.Inert state (lost ++ kept)) : book.Inert state kept := by
  intro arrived part
  obtain ⟨rest, rfl⟩ := part
  exact (inert (lost ++ arrived) ⟨rest, by simp⟩).suffix tidy

/-- What is cut off while a listener waits is front only, since there is room for all of
the awaited text. -/
theorem Waiting.trim (tidy : book.Tidy) {state : RunState} {lost kept due : List Char}
    {room : Nat} (waiting : book.Waiting awaiting later state (lost ++ kept) due)
    (fits : Utf8.byteLength ('\n' :: later) ≤ room)
    (keeps : ∀ ending, ending <:+ lost ++ kept → Utf8.byteLength ending ≤ room →
      ending <:+ kept) :
    book.Waiting awaiting later state kept due := by
  obtain ⟨here, quiet, front, arrived, marks, shape, stream, replaced, silent⟩ := waiting
  refine ⟨here, quiet.suffix tidy, ?_⟩
  rcases List.append_eq_append_iff.mp shape with ⟨more, rfl, rfl⟩ | ⟨beyond, rfl, rfl⟩
  · exact ⟨more, arrived, marks, rfl, stream, replaced, silent.suffix tidy⟩
  · -- Of what has arrived, only replacement characters can be lost.
    rw [List.append_assoc] at stream
    have given : ∃ marks', marks = beyond ++ marks' := by
      rcases List.append_eq_append_iff.mp stream with ⟨marks', shape, -⟩ | ⟨more, rfl, tails⟩
      · exact ⟨marks', shape⟩
      · have total := congrArg Utf8.byteLength tails
        have inside := keeps (more ++ kept) ⟨front ++ marks, by simp⟩ (by
          rw [Utf8.byteLength_append] at total ⊢
          rw [Utf8.byteLength_append] at total
          omega)
        have length := inside.length_le
        rw [List.length_append] at length
        obtain rfl : more = [] := List.length_eq_zero_iff.mp (by omega)
        exact ⟨[], by simp⟩
    obtain ⟨marks', rfl⟩ := given
    refine ⟨[], kept, marks', rfl, ?_, fun character member => ?_, tidy.quiet_nil state⟩
    · rw [List.append_assoc] at stream
      exact List.append_cancel_left stream
    · exact replaced character (List.mem_append_right _ member)

namespace Expects

variable (expects : book.Expects awaiting carried later answer)
include expects

/-- Whatever fires behind the front gives the answer. -/
theorem answer_of_behind {state : RunState} (here : awaiting state) {rule : Rule}
    (member : rule ∈ book.rules state) {front arrived due marks : List Char}
    (stream : arrived ++ due = marks ++ '\n' :: later)
    (replaced : ∀ character ∈ marks, character = Utf8.replacement) {finding : Finding}
    (found : rule.find? (front ++ arrived) = some finding)
    (behind : front.length ≤ finding.found.span.start) :
    rule.react finding = answer ∧
      book.Inert answer.next ((front ++ arrived).drop finding.consumed ++ due) := by
  obtain ⟨_, isTidy⟩ := expects.tidy state rule member
  obtain ⟨skipped, core, last, rest, shape, -, compact, -, start, -⟩ := isTidy.find?_eq found
  have ahead : ∃ between, skipped = front ++ between ∧
      arrived = between ++ (core ++ (last ++ rest)) := by
    rw [start] at behind
    rcases List.append_eq_append_iff.mp shape with ⟨between, rfl, parts⟩ | ⟨more, rfl, parts⟩
    · exact ⟨between, rfl, parts⟩
    · rw [List.length_append] at behind
      obtain rfl : more = [] := List.length_eq_zero_iff.mp (by omega)
      exact ⟨[], by simp, by simpa using parts.symm⟩
  obtain ⟨between, rfl, arrives⟩ := ahead
  have marked : ∃ before, between = marks ++ before := by
    rw [arrives, List.append_assoc] at stream
    rcases List.append_eq_append_iff.mp stream with ⟨more, rfl, parts⟩ | ⟨before, shape, -⟩
    · -- A compact text starts with no replacement character.
      cases more with
      | nil => exact ⟨[], by simp⟩
      | cons mark more =>
        obtain ⟨first, core, rfl⟩ := List.exists_cons_of_ne_nil compact.ne_nil
        obtain ⟨rfl, -⟩ := List.cons.inj parts
        exact absurd (congrArg some (replaced first (by simp))) compact.head
    · exact ⟨before, shape⟩
  obtain ⟨before, rfl⟩ := marked
  have part : (before ++ (core ++ (last ++ rest))) ++ due = '\n' :: later := by
    rw [arrives, List.append_assoc, List.append_assoc] at stream
    rw [List.append_assoc]
    exact List.append_cancel_left stream
  have whole : front ++ arrived = (front ++ marks) ++ (before ++ (core ++ (last ++ rest))) := by
    rw [arrives]
    simp only [List.append_assoc]
  rw [whole] at found ⊢
  apply expects.answers state here rule member finding (front ++ marks) _ due part found
  rw [start]
  simp only [List.length_append]
  omega

/-- While a listener waits something is due: all of the text cannot be overlooked. -/
theorem due_ne_nil {state : RunState} {text due : List Char}
    (waiting : book.Waiting awaiting later state text due) : due ≠ [] := by
  rintro rfl
  obtain ⟨here, quiet, front, arrived, marks, shape, stream, -, -⟩ := waiting
  rw [List.append_nil] at stream
  obtain ⟨rule, member, skipped, read, rest, parts, spells⟩ := expects.occurs _ here
  obtain ⟨_, isTidy⟩ := expects.tidy _ rule member
  refine quiet rule member ((occursIn_iff_spells isTidy.plain).mpr
    ⟨front ++ (marks ++ skipped), read, rest, ?_, spells⟩)
  rw [shape, stream, parts]
  simp only [List.append_assoc]

/-- A chain on the text of a listener that waits leaves it waiting, or answers. -/
theorem chain {state final : RunState} {text rest : List Char} {transitions : List Transition}
    (chain : book.Chain state text transitions final rest) {front arrived due marks : List Char}
    (shape : text = front ++ arrived) (stream : arrived ++ due = marks ++ '\n' :: later)
    (replaced : ∀ character ∈ marks, character = Utf8.replacement) (here : awaiting state)
    (silent : book.Quiet state front) :
    ∃ jumps : List Event, (∀ event ∈ jumps, carried event) ∧
      (transitions.filterMap (·.reaction.event) = jumps ∧
          book.Waiting awaiting later final rest due ∨
        transitions.filterMap (·.reaction.event) = jumps ++ answer.event.toList ∧
          final = answer.next ∧ book.Inert answer.next (rest ++ due)) := by
  induction chain generalizing front with
  | @quiet state text quiet =>
    subst shape
    exact ⟨[], by simp, .inl ⟨rfl, here, quiet, front, arrived, marks, rfl, stream, replaced,
      silent⟩⟩
  | idle takes nothing => exact absurd nothing (takes.segment_ne_nil expects.tidy)
  | @step transition rest transitions final last takes something parts chain
      inductionHypothesis =>
    obtain ⟨rule, member, found, reacts⟩ := takes.fires
    have member := List.mem_of_getElem? member
    have within := Rule.consumed_le found
    have dropped := transition.rest_eq parts
    have event : (transition :: transitions).filterMap (·.reaction.event) =
        transition.reaction.event.toList ++ transitions.filterMap (·.reaction.event) := by
      cases event : transition.reaction.event <;> simp [event]
    rw [shape] at found
    rcases Nat.lt_or_ge transition.finding.found.span.start front.length with begins | behind
    · -- The match starts in the front and takes just that.
      have notOccurs := silent rule member
      obtain ⟨_, isTidy⟩ := expects.tidy _ rule member
      obtain ⟨-, consumed⟩ := isTidy.consumed_front stream replaced notOccurs found begins
      rcases expects.stays _ here rule member with tidy | further
      · exact absurd rfl (tidy.consumed_front stream replaced notOccurs found begins).1
      obtain ⟨next, carries⟩ := further transition.finding
      rw [← reacts] at next carries
      have left : rest = [] ++ arrived := by
        rw [dropped, shape, consumed, List.drop_left, List.nil_append]
      obtain ⟨jumps, carried, outcome⟩ :=
        inductionHypothesis left next (expects.tidy.quiet_nil _)
      refine ⟨transition.reaction.event.toList ++ jumps, fun event member => ?_, ?_⟩
      · rcases List.mem_append.mp member with member | member
        · exact carries event (by simpa using member)
        · exact carried event member
      · rw [event]
        refine outcome.imp (And.imp_left fun events => by rw [events]) (And.imp_left fun events => ?_)
        rw [events, List.append_assoc]
    · obtain ⟨answers, inert⟩ :=
        expects.answer_of_behind here member stream replaced found behind
      rw [← reacts] at answers
      rw [← shape, ← dropped] at inert
      have quiet := inert rest (List.prefix_append rest due)
      rw [← answers] at quiet
      obtain ⟨rfl, rfl, rfl⟩ := chain.of_quiet quiet
      refine ⟨[], by simp, .inr ⟨?_, by rw [answers], inert⟩⟩
      rw [event, answers, List.filterMap_nil, List.append_nil, List.nil_append]

end Expects

end Rulebook

/-! ## Feeding the pieces -/

theorem Episode.events_news {episode : Episode}
    (news : ∀ event ∈ episode.transitions.filterMap (·.reaction.event), event.isNews = true) :
    episode.events.filter Event.isNews = episode.transitions.filterMap (·.reaction.event) := by
  rw [events, List.filter_append, Event.filter_isNews_stalled, List.append_nil,
    List.filter_eq_self]
  exact news

namespace Listener

/-- The text that some chunks will add to that of a listener. -/
def due (listener : Listener) (chunks : List (List UInt8)) : List Char :=
  Utf8.lossy (listener.pending ++ chunks.flatten)

/-- A chunk moves text from what is due to what is heard. -/
theorem feed_due (listener : Listener) (chunk : List UInt8) (chunks : List (List UInt8)) :
    ∃ episode : Episode,
      listener.due (chunk :: chunks) = episode.heard ++ (listener.feed chunk).2.due chunks ∧
      (Utf8.heldBack (listener.pending ++ (chunk :: chunks).flatten) = 0 →
        Utf8.heldBack ((listener.feed chunk).2.pending ++ chunks.flatten) = 0) ∧
      listener.book.Chain listener.state (listener.buffer ++ episode.heard) episode.transitions
        (listener.feed chunk).2.state (episode.lost.getD [] ++ (listener.feed chunk).2.buffer) ∧
      (∀ ending, ending <:+ episode.lost.getD [] ++ (listener.feed chunk).2.buffer →
        Utf8.byteLength ending ≤ listener.bounds.keepTail →
        ending <:+ (listener.feed chunk).2.buffer) ∧
      (listener.feed chunk).1 = episode.events := by
  obtain ⟨episode, complete, held, middle, kept, shape, amount, fragment, heard, chain, keeps,
    fed⟩ := listener.feed_episode chunk
  have bytes : listener.pending ++ (chunk :: chunks).flatten =
      complete ++ (held ++ chunks.flatten) := by
    rw [List.flatten_cons, ← List.append_assoc, shape, List.append_assoc]
  rw [fed]
  refine ⟨episode, ?_, fun none => ?_, chain, keeps, rfl⟩
  · rw [due, bytes, Utf8.lossy_append (fragment.seam (shape ▸ amount) _), heard]
    rfl
  · rw [bytes] at none
    exact Utf8.heldBack_of_append_left none

/-- A listener ignores a text that nothing can fire in. -/
theorem feedAll_of_inert {listener : Listener} (tidy : listener.book.Tidy)
    {chunks : List (List UInt8)}
    (inert : listener.book.Inert listener.state (listener.buffer ++ listener.due chunks)) :
    (listener.feedAll chunks).2.state = listener.state ∧
      (listener.feedAll chunks).1.flatten.filter Event.isNews = [] := by
  induction chunks generalizing listener with
  | nil => exact ⟨rfl, rfl⟩
  | cons chunk chunks inductionHypothesis =>
    obtain ⟨episode, due, -, chain, -, events⟩ := listener.feed_due chunk chunks
    rw [due, ← List.append_assoc] at inert
    obtain ⟨nothing, same, left⟩ := chain.of_quiet (inert _ (List.prefix_append _ _))
    have rest : (listener.feed chunk).2.book.Inert (listener.feed chunk).2.state
        ((listener.feed chunk).2.buffer ++ (listener.feed chunk).2.due chunks) := by
      rw [← left, List.append_assoc] at inert
      rw [feed_book, same]
      exact inert.suffix tidy
    obtain ⟨state, silent⟩ := inductionHypothesis (by rwa [feed_book]) rest
    rw [feedAll_cons, List.flatten_cons, List.filter_append, silent, events,
      Episode.events_news (by simp [nothing]), nothing]
    exact ⟨state.trans same, rfl⟩

end Listener

namespace Rulebook.Expects

variable {awaiting : RunState → Prop} {carried : Event → Prop} {later : List Char}
  {answer : Reaction}

/-- A listener that waits for a text answers it before all of it has arrived. -/
theorem feedAll_waiting {listener : Listener}
    (expects : listener.book.Expects awaiting carried later answer)
    (room : Utf8.byteLength ('\n' :: later) ≤ listener.bounds.keepTail)
    {chunks : List (List UInt8)} (fragment : Utf8.Fragment listener.pending)
    (whole : Utf8.heldBack (listener.pending ++ chunks.flatten) = 0)
    (waiting : listener.book.Waiting awaiting later listener.state listener.buffer
      (listener.due chunks)) :
    ∃ jumps : List Event, (∀ event ∈ jumps, carried event) ∧
      (listener.feedAll chunks).1.flatten.filter Event.isNews = jumps ++ answer.event.toList ∧
      (listener.feedAll chunks).2.state = answer.next := by
  induction chunks generalizing listener with
  | nil =>
    rw [List.flatten_nil, List.append_nil] at whole
    refine absurd ?_ (expects.due_ne_nil waiting)
    rw [Listener.due, fragment.eq_nil whole, List.nil_append, List.flatten_nil, Utf8.lossy_nil]
  | cons chunk chunks inductionHypothesis =>
    obtain ⟨episode, due, keepsWhole, chain, keeps, events⟩ := listener.feed_due chunk chunks
    obtain ⟨here, quiet, front, arrived, marks, shape, stream, replaced, silent⟩ := waiting
    rw [due, ← List.append_assoc] at stream
    obtain ⟨jumps, carries, outcome⟩ := expects.chain chain
      (by rw [shape, List.append_assoc]) stream replaced here silent
    have jumpsNews : ∀ event ∈ jumps, event.isNews = true := fun event member =>
      expects.news event (.inl (carries event member))
    have fragment' : Utf8.Fragment (listener.feed chunk).2.pending :=
      (Listener.settled_feed expects.tidy chunk).fragment
    rw [Listener.feedAll_cons, List.flatten_cons, List.filter_append, events]
    rcases outcome with ⟨told, waits⟩ | ⟨told, state, inert⟩
    · have trimmed := waits.trim expects.tidy room keeps
      obtain ⟨further, carries', news, final⟩ := @inductionHypothesis (listener.feed chunk).2
        (by rwa [Listener.feed_book]) (by rwa [Listener.feed_bounds]) fragment'
        (keepsWhole whole) (by rwa [Listener.feed_book])
      refine ⟨jumps ++ further, fun event member => ?_, ?_, final⟩
      · exact (List.mem_append.mp member).elim (carries event) (carries' event)
      · rw [Episode.events_news (told ▸ jumpsNews), told, news, List.append_assoc]
    · have rest : (listener.feed chunk).2.book.Inert (listener.feed chunk).2.state
          ((listener.feed chunk).2.buffer ++ (listener.feed chunk).2.due chunks) := by
        rw [Listener.feed_book, state]
        rw [List.append_assoc] at inert
        exact inert.suffix expects.tidy
      obtain ⟨final, nothing⟩ :=
        Listener.feedAll_of_inert (by rw [Listener.feed_book]; exact expects.tidy) rest
      refine ⟨jumps, carries, ?_, final.trans state⟩
      rw [Episode.events_news, told, nothing, List.append_nil]
      rw [told]
      intro event member
      rcases List.mem_append.mp member with member | member
      · exact jumpsNews event member
      · exact expects.news event (.inr (by simpa using member))

/-- An expected text is answered, whatever a settled listener has heard before and however
the text is cut into pieces, if it fits into what is kept of a text cut short. -/
theorem feedAll {listener : Listener}
    (expects : listener.book.Expects awaiting carried later answer) (settled : listener.Settled)
    (here : awaiting listener.state)
    (room : Utf8.byteLength ('\n' :: later) ≤ listener.bounds.keepTail)
    {pieces : List (List UInt8)} (cut : pieces.flatten = Utf8.encode ('\n' :: later)) :
    ∃ jumps : List Event, (∀ event ∈ jumps, carried event) ∧
      (listener.feedAll pieces).1.flatten.filter Event.isNews = jumps ++ answer.event.toList ∧
      (listener.feedAll pieces).2.state = answer.next := by
  have starts : ∀ byte ∈ (Utf8.encode ('\n' :: later)).head?,
      Utf8.isContinuation byte = false := by
    intro byte first
    rw [Utf8.encode_cons, show String.utf8EncodeChar '\n' = [10] from rfl] at first
    cases first
    decide
  have due : listener.due pieces = Utf8.lossy listener.pending ++ '\n' :: later := by
    rw [Listener.due, cut, Utf8.lossy_append (.inl starts), Utf8.lossy_encode]
  refine expects.feedAll_waiting room settled.fragment ?_ ⟨here, settled.quiet, listener.buffer,
    [], Utf8.lossy listener.pending, by simp, by simpa using due, settled.fragment.lossy,
    settled.quiet⟩
  rw [cut]
  exact Utf8.heldBack_append_encode _ (List.cons_ne_nil _ _)

end Rulebook.Expects

end DebugConsole
