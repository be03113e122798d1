import DebugConsole.Proofs.Listener.History
import DebugConsole.Proofs.Text.Replacement

/-!
# Decoding what is heard

A listener decodes its chunks as they come and holds back what may still become a
character. However bytes are cut into chunks, the text that it decodes and the bytes that
it holds back are the same (`Listener.feedAll_decodes`), and together they are what the
bytes decode to as a whole.
-/

namespace DebugConsole.Listener

/-- The text that a chunk adds. -/
def heard (listener : Listener) (chunk : List UInt8) : List Char :=
  (listener.hear chunk).buffer.drop listener.buffer.length

/-- The text that chunks add, fed one after the other. -/
def heardAll (listener : Listener) : List (List UInt8) → List Char
  | [] => []
  | chunk :: later => listener.heard chunk ++ (listener.feed chunk).2.heardAll later

/-- Feeding a chunk adds the text of its complete characters and holds back the rest. -/
theorem feed_heard (listener : Listener) (chunk : List UInt8) :
    ∃ complete held, listener.pending ++ chunk = complete ++ held ∧
      Utf8.heldBack (complete ++ held) = held.length ∧ Utf8.Fragment held ∧
      listener.heard chunk = Utf8.lossy complete ∧ (listener.feed chunk).2.pending = held := by
  obtain ⟨complete, held, shape, amount, fragment, heard⟩ := listener.hear_eq chunk
  obtain ⟨_, complete', held', _, _, shape', amount', -, -, -, -, fed⟩ := listener.feed_episode chunk
  obtain ⟨rfl, rfl⟩ := List.append_inj' (shape.symm.trans shape') (amount.symm.trans amount')
  refine ⟨complete, held, shape, shape ▸ amount, fragment, ?_, by rw [fed]⟩
  rw [Listener.heard, heard, List.drop_left]

/-- Feeding chunks decodes what was held back and all of them as a whole. -/
theorem feedAll_heardAll (listener : Listener) (settled : Utf8.Fragment listener.pending)
    (chunks : List (List UInt8)) :
    ∃ complete held, listener.pending ++ chunks.flatten = complete ++ held ∧
      Utf8.heldBack (complete ++ held) = held.length ∧
      listener.heardAll chunks = Utf8.lossy complete ∧
      (listener.feedAll chunks).2.pending = held := by
  -- What a chunk leaves held back is decoded again in front of the next one, so the
  -- induction is over all listeners that hold a fragment back.
  induction chunks generalizing listener with
  | nil => exact ⟨[], listener.pending, by simp, settled.heldBack_eq, Utf8.lossy_nil.symm, rfl⟩
  | cons chunk chunks inductionHypothesis =>
    obtain ⟨complete, held, shape, amount, fragment, heard, pending⟩ := listener.feed_heard chunk
    obtain ⟨further, last, shape', amount', heard', pending'⟩ :=
      inductionHypothesis (listener.feed chunk).2 (pending ▸ fragment)
    rw [pending] at shape'
    refine ⟨complete ++ further, last, ?_, ?_, ?_, pending'⟩
    · rw [List.flatten_cons, ← List.append_assoc, shape, List.append_assoc, shape',
        List.append_assoc]
    · rw [List.append_assoc, ← shape', fragment.heldBack_append_append amount, shape', amount']
    · have seam := (fragment.seam amount chunks.flatten).of_part ⟨last, shape'.symm⟩
      rw [heardAll, heard, heard', Utf8.lossy_append seam]

/-- Decoding does not depend on how bytes are cut. Whatever the bytes are, there are one
text that is heard and one end of at most three bytes that is held back, the same for
every listener from fresh and all ways of cutting them into chunks; the text and what the
end decodes to are together what the bytes stand for. Of the bytes of a text nothing is
held back, and the text is heard. -/
theorem feedAll_decodes (bytes : List UInt8) :
    ∃ text held, held <:+ bytes ∧ held.length ≤ 3 ∧
      text ++ Utf8.lossy held = Utf8.lossy bytes ∧
      Utf8.Decodes held (Utf8.lossy held) ∧ Utf8.Decodes bytes (Utf8.lossy bytes) ∧
      (∀ whole, bytes = Utf8.encode whole → text = whole ∧ held = []) ∧
      ∀ book state bounds chunks, chunks.flatten = bytes →
        (fresh book state bounds).heardAll chunks = text ∧
        ((fresh book state bounds).feedAll chunks).2.pending = held := by
  obtain ⟨complete, held, shape, amount, fragment⟩ := Utf8.exists_fragment bytes
  have total : Utf8.lossy complete ++ Utf8.lossy held = Utf8.lossy bytes := by
    have seam := fragment.seam (shape ▸ amount) []
    rw [List.append_nil] at seam
    rw [shape, Utf8.lossy_append seam]
  refine ⟨Utf8.lossy complete, held, ⟨complete, shape.symm⟩, fragment.length_le, total,
    Utf8.decodes_iff.mpr rfl, Utf8.decodes_iff.mpr rfl, fun whole written => ?_,
    fun book state bounds chunks cut => ?_⟩
  · have none : held = [] := by
      by_cases empty : whole = []
      · rw [written, empty, Utf8.encode_nil] at shape
        exact (List.append_eq_nil_iff.mp shape.symm).2
      · have nothing := Utf8.heldBack_append_encode [] empty
        rw [List.nil_append, ← written, amount] at nothing
        exact List.length_eq_zero_iff.mp nothing
    rw [none, Utf8.lossy_nil, List.append_nil, written, Utf8.lossy_encode] at total
    exact ⟨total, none⟩
  · obtain ⟨complete', held', shape', amount', heard, pending⟩ :=
      (fresh book state bounds).feedAll_heardAll .none chunks
    have same : complete ++ held = complete' ++ held' := by
      rw [← shape, ← cut, ← shape']
      rfl
    have long : held.length = held'.length := by rw [← amount, ← amount', shape, same]
    obtain ⟨rfl, rfl⟩ := List.append_inj' same long
    exact ⟨heard, pending⟩

/-- A character that comes in three pieces is heard once. -/
theorem feedAll_decodes_euro :
    (fresh .empty .paused .standard).heardAll [[0xE2], [0x82], [0xAC]] = ['€'] ∧
      ((fresh .empty .paused .standard).feedAll [[0xE2], [0x82], [0xAC]]).2.pending = [] := by
  obtain ⟨text, held, -, -, -, -, -, valid, all⟩ := feedAll_decodes [0xE2, 0x82, 0xAC]
  obtain ⟨rfl, rfl⟩ := valid ['€'] rfl
  exact all .empty .paused .standard [[0xE2], [0x82], [0xAC]] rfl

end DebugConsole.Listener
