import DebugConsole.Debugger.Console
import DebugConsole.Proofs.Listener.Settled

/-!
# Chunks that lead to nothing

A chunk on which no rule fires and for which no text is given up is heard and nothing
else. Hearing one chunk after another is hearing both at once (`Listener.hear_hear`), so
such a chunk could as well have come together with the one behind it: what is reported
then and what the listener is afterwards do not tell where the cut was
(`Listener.feed_behind_uneventful`).

With tidy rules the empty chunk is of this kind once the text fits its bounds, as it does
behind every chunk if less is kept of a text that is cut short than may wait. So nothing
happens until the next bytes come (`Listener.Settled.feedAll_replicate_nil`).
-/

namespace DebugConsole

/-- Without transitions there was nothing to do. -/
theorem Rulebook.Chain.quiet_start {book : Rulebook} {state final : RunState}
    {text rest : List Char} (chain : book.Chain state text [] final rest) :
    book.Quiet state text := by
  cases chain with
  | quiet silent => exact silent

namespace Listener

/-! ## Hearing chunks together -/

/-- What one chunk leaves held back is decoded again in front of the next one, so the cut
between them leaves no trace. -/
theorem hear_hear (listener : Listener) (first second : List UInt8) :
    (listener.hear first).hear second = listener.hear (first ++ second) := by
  obtain ⟨complete, held, shape, amount, fragment, heard⟩ := listener.hear_eq first
  obtain ⟨further, last, shape', amount', -, heard'⟩ := (listener.hear first).hear_eq second
  obtain ⟨whole, rest, shape'', amount'', -, heard''⟩ := listener.hear_eq (first ++ second)
  rw [heard] at shape' amount' heard'
  dsimp only at shape' amount' heard'
  rw [shape] at amount
  have joined : listener.pending ++ (first ++ second) = complete ++ (further ++ last) := by
    rw [← List.append_assoc, shape, List.append_assoc, shape']
  have long : rest.length = last.length := by
    rw [← amount'', ← amount', joined, ← shape', fragment.heldBack_append_append amount]
  rw [joined, ← List.append_assoc] at shape''
  obtain ⟨rfl, rfl⟩ := List.append_inj' shape'' long.symm
  have seam : Utf8.Seam complete further := (fragment.seam amount second).of_part ⟨_, shape'.symm⟩
  rw [heard, heard', heard'', Utf8.lossy_append seam, List.append_assoc]

/-! ## Where nothing fires -/

theorem settle_of_quiet {listener : Listener}
    (quiet : listener.book.Quiet listener.state listener.buffer) :
    listener.settle = ([], listener) := by
  have silent : listener.firing? = none := firstFiring_eq_none_iff.mpr fun rule member =>
    Rule.find?_eq_none_iff.mpr (quiet rule member)
  rw [settle_eq, silent]

theorem quiet_of_settle {listener : Listener} (unfired : listener.settle.1 = []) :
    listener.book.Quiet listener.state listener.buffer := by
  obtain ⟨transitions, state, text, settled, chain⟩ := listener.settle_chain
  rw [settled] at unfired
  obtain rfl := List.map_eq_nil_iff.mp unfired
  exact chain.quiet_start

/-- A chunk on which nothing fires is heard, and its text may have to be cut short. -/
theorem feed_of_quiet {listener : Listener} {chunk : List UInt8}
    (quiet : listener.book.Quiet listener.state (listener.hear chunk).buffer) :
    listener.feed chunk =
      (((listener.hear chunk).trim.1.map Event.stalled).toList, (listener.hear chunk).trim.2) := by
  have settled : (listener.hear chunk).settle = ([], listener.hear chunk) := settle_of_quiet quiet
  rw [feed, settled]
  rfl

/-! ## Uneventful chunks -/

/-- No rule fires on a chunk, and no text is given up behind it. -/
structure Uneventful (listener : Listener) (chunk : List UInt8) : Prop where
  unfired : (listener.hear chunk).settle.1 = []
  unstalled : ∀ discarded, .stalled discarded ∉ (listener.feed chunk).1

/-- Chunks are uneventful one after the other. -/
def UneventfulAll (listener : Listener) : List (List UInt8) → Prop
  | [] => True
  | chunk :: later => listener.Uneventful chunk ∧ (listener.feed chunk).2.UneventfulAll later

/-- An uneventful chunk is heard and nothing else. -/
theorem Uneventful.feed_eq {listener : Listener} {chunk : List UInt8}
    (uneventful : listener.Uneventful chunk) : listener.feed chunk = ([], listener.hear chunk) := by
  have quiet : listener.book.Quiet listener.state (listener.hear chunk).buffer :=
    quiet_of_settle uneventful.unfired
  have fed := feed_of_quiet quiet
  rcases trim_eq (listener.hear chunk) with ⟨-, whole⟩ | ⟨-, lost, -, cut⟩
  · rw [fed, whole]
    rfl
  · refine absurd ?_ (uneventful.unstalled (Utf8.byteLength lost))
    rw [fed, cut]
    exact List.mem_cons_self

/-- A cut behind an uneventful chunk leaves no trace. -/
theorem Uneventful.feed_feed {listener : Listener} {chunk : List UInt8}
    (uneventful : listener.Uneventful chunk) (later : List UInt8) :
    (listener.feed chunk).2.feed later = listener.feed (chunk ++ later) := by
  rw [uneventful.feed_eq, feed, hear_hear, feed]

/-- Cuts at which nothing happened are invisible. Behind uneventful chunks, whatever comes
next is answered as if all of it had come at once: the same events, and the same listener
afterwards, with its state, its text and the bytes it holds back. -/
theorem feed_behind_uneventful (listener : Listener) (chunks : List (List UInt8))
    (uneventful : listener.UneventfulAll chunks) (last : List UInt8) :
    (listener.feedAll chunks).2.feed last = listener.feed (chunks.flatten ++ last) := by
  induction chunks generalizing listener with
  | nil => rfl
  | cons chunk chunks inductionHypothesis =>
    obtain ⟨here, later⟩ := uneventful
    calc ((listener.feedAll (chunk :: chunks)).2).feed last
        = (((listener.feed chunk).2.feedAll chunks).2).feed last := by rw [feedAll_cons]
      _ = (listener.feed chunk).2.feed (chunks.flatten ++ last) := inductionHypothesis _ later
      _ = listener.feed (chunk ++ (chunks.flatten ++ last)) := here.feed_feed _
      _ = listener.feed ((chunk :: chunks).flatten ++ last) := by
        rw [List.flatten_cons, List.append_assoc]

/-- An annotation of gdb that comes in three pieces, the first of them ending inside a
character that began in the chunk before, is answered as if it had come in one. -/
theorem feed_behind_uneventful_cut_in_character :
    let listener := ((Debugger.gdb.listener .standard).feedAll [[0xE2]]).2
    listener.UneventfulAll [[0x82], [0xAC, 10, 26, 26, 47]] ∧
      (listener.feedAll [[0x82], [0xAC, 10, 26, 26, 47]]).2.feed [97, 58, 53, 58, 49] =
        listener.feed [0x82, 0xAC, 10, 26, 26, 47, 97, 58, 53, 58, 49] ∧
      (listener.feed [0x82, 0xAC, 10, 26, 26, 47, 97, 58, 53, 58, 49]).1 =
        [.jumpTo ⟨⟨"/a"⟩, 5⟩] := by
  intro listener
  have told : (listener.feed [0x82]).1 = [] := by decide +kernel
  have told' : ((listener.feed [0x82]).2.feed [0xAC, 10, 26, 26, 47]).1 = [] := by decide +kernel
  have uneventful : listener.UneventfulAll [[0x82], [0xAC, 10, 26, 26, 47]] :=
    ⟨⟨List.length_eq_zero_iff.mp (by decide +kernel), by simp [told]⟩,
      ⟨List.length_eq_zero_iff.mp (by decide +kernel), by simp [told']⟩, trivial⟩
  exact ⟨uneventful, feed_behind_uneventful listener _ uneventful _, by decide +kernel⟩

/-! ## Empty chunks -/

/-- The buffered text is within its bounds. -/
def Fits (listener : Listener) : Prop := listener.bufferedBytes ≤ listener.bounds.maxBytes

/-- What is left of a text fits, if less is kept of one that is cut short than may wait. -/
theorem fits_trim {listener : Listener}
    (room : listener.bounds.keepTail ≤ listener.bounds.maxBytes) : listener.trim.2.Fits := by
  rcases trim_eq listener with ⟨within, whole⟩ | ⟨-, lost, -, cut⟩
  · rw [whole]
    exact within
  · obtain ⟨-, -, bound, -⟩ := longestEnd_eq listener.bounds.keepTail listener.buffer
    rw [cut]
    exact Nat.le_trans bound room

theorem fits_feed {listener : Listener}
    (room : listener.bounds.keepTail ≤ listener.bounds.maxBytes) (chunk : List UInt8) :
    (listener.feed chunk).2.Fits := by
  obtain ⟨transitions, state, text, settled, -⟩ := (listener.hear chunk).settle_chain
  have fed : (listener.feed chunk).2 = (listener.hear chunk).settle.2.trim.2 := rfl
  rw [fed, settled]
  exact fits_trim room

theorem Fits.feedAll {listener : Listener} (fits : listener.Fits)
    (room : listener.bounds.keepTail ≤ listener.bounds.maxBytes) (chunks : List (List UInt8)) :
    (listener.feedAll chunks).2.Fits := by
  induction chunks generalizing listener with
  | nil => exact fits
  | cons chunk chunks inductionHypothesis =>
    have room' : (listener.feed chunk).2.bounds.keepTail ≤
        (listener.feed chunk).2.bounds.maxBytes := by
      rwa [feed_bounds]
    exact inductionHypothesis (fits_feed room chunk) room'

/-- A settled listener hears nothing new in an empty chunk. -/
theorem Settled.hear_nil {listener : Listener} (settled : listener.Settled) :
    listener.hear [] = listener := by
  obtain ⟨complete, held, shape, amount, -, heard⟩ := listener.hear_eq []
  rw [List.append_nil] at shape amount
  have all : listener.pending.length = held.length := by
    rw [← amount, settled.fragment.heldBack_eq]
  have parts : [] ++ listener.pending = complete ++ held := shape
  obtain ⟨rfl, rfl⟩ := List.append_inj' parts all
  rw [heard, Utf8.lossy_nil, List.append_nil]

/-- Nothing comes of an empty chunk while the text fits. -/
theorem Settled.feed_nil {listener : Listener} (settled : listener.Settled)
    (fits : listener.Fits) : listener.feed [] = ([], listener) := by
  have whole : listener.trim = (none, listener) := if_pos fits
  rw [feed_of_quiet (by rw [settled.hear_nil]; exact settled.quiet), settled.hear_nil, whole]
  rfl

theorem Settled.feedAll_replicate_nil {listener : Listener} (settled : listener.Settled)
    (fits : listener.Fits) (count : Nat) :
    listener.feedAll (List.replicate count []) = (List.replicate count [], listener) := by
  induction count with
  | zero => rfl
  | succ count inductionHypothesis =>
    rw [List.replicate_succ, feedAll_cons, settled.feed_nil fits, inductionHypothesis]
    rfl

end Listener

end DebugConsole
