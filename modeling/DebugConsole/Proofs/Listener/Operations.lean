import DebugConsole.Listener.Basic
import DebugConsole.Proofs.Pattern.Search
import DebugConsole.Proofs.Text.Utf8

/-!
# What each operation of a listener does

One statement for each of hearing, firing, settling and trimming. Nothing else is
needed of their definitions: a listener is fed by hearing, settling and trimming,
and only hearing looks at bytes.
-/

namespace DebugConsole.Listener

/-! ## Hearing -/

/-- Hearing a chunk takes the bytes held back and the new ones, decodes them up to a
seam, and holds the rest back. -/
theorem hear_eq (listener : Listener) (chunk : List UInt8) :
    ∃ complete held, listener.pending ++ chunk = complete ++ held ∧
      Utf8.heldBack (listener.pending ++ chunk) = held.length ∧ Utf8.Fragment held ∧
      listener.hear chunk =
        { listener with buffer := listener.buffer ++ Utf8.lossy complete, pending := held } := by
  obtain ⟨complete, held, shape, amount, fragment⟩ :=
    Utf8.exists_fragment (listener.pending ++ chunk)
  refine ⟨complete, held, shape, amount, fragment, ?_⟩
  have cut : (complete ++ held).length - Utf8.heldBack (complete ++ held) = complete.length := by
    rw [← shape, amount, shape, List.length_append, Nat.add_sub_cancel]
  simp only [hear, shape, cut, List.take_left, List.drop_left]

/-! ## Firing -/

/-- The rule that fires is found in the text, and none before it is. -/
theorem firstFiring_eq_some {text : List Char} {index : Nat} {rules : List Rule}
    {firing : Firing} (fires : firstFiring text index rules = some firing) :
    ∃ place rule finding, rules[place]? = some rule ∧ rule.find? text = some finding ∧
      firing = ⟨index + place, finding.consumed, rule.react finding⟩ ∧
      ∀ earlier other, earlier < place → rules[earlier]? = some other →
        other.find? text = none := by
  induction rules generalizing index with
  | nil => cases fires
  | cons rule later inductionHypothesis =>
    unfold firstFiring at fires
    split at fires
    · next finding found =>
      cases fires
      exact ⟨0, rule, finding, rfl, found, rfl, by simp⟩
    · next missed =>
      obtain ⟨place, other, finding, here, found, rfl, earlier⟩ := inductionHypothesis fires
      refine ⟨place + 1, other, finding, here, found, by simp only [Nat.add_assoc, Nat.add_comm 1],
        fun before rule' less here' => ?_⟩
      cases before with
      | zero =>
        obtain rfl : rule = rule' := by simpa using here'
        exact missed
      | succ before => exact earlier before rule' (by omega) here'

theorem firstFiring_eq_none_iff {text : List Char} {index : Nat} {rules : List Rule} :
    firstFiring text index rules = none ↔ ∀ rule ∈ rules, rule.find? text = none := by
  induction rules generalizing index with
  | nil => simp [firstFiring]
  | cons rule later inductionHypothesis =>
    unfold firstFiring
    cases found : rule.find? text with
    | none => simp [found, inductionHypothesis]
    | some finding => simp [found]

/-! ## Settling -/

/-- What fires does not depend on what fired before. -/
theorem settleOnto_eq (fired : List Firing) (listener : Listener) :
    listener.settleOnto fired = (fired.reverse ++ listener.settle.1, listener.settle.2) := by
  have general : ∀ (earlier : List Firing) (listener : Listener) (fired : List Firing),
      listener.settleOnto fired = (fired.reverse ++ listener.settle.1, listener.settle.2) := by
    intro earlier listener
    induction earlier, listener using settleOnto.induct with
    | case1 _ listener none =>
      intro fired
      rw [settle, settleOnto, settleOnto, none]
      simp
    | case2 _ listener firing fires last =>
      intro fired
      rw [settle, settleOnto, settleOnto, fires]
      simp [last]
    | case3 _ listener firing fires going inductionHypothesis =>
      intro fired
      rw [settle, settleOnto, settleOnto, fires]
      simp only [going, if_false]
      rw [inductionHypothesis, inductionHypothesis [firing], List.reverse_cons, List.append_assoc]
      rfl
  exact general [] listener fired

/-- What fires takes no more than the text there is. -/
theorem consumed_le_of_fires {listener : Listener} {firing : Firing}
    (fires : listener.firing? = some firing) : firing.consumed ≤ listener.buffer.length := by
  obtain ⟨_, _, _, -, found, rfl, -⟩ := firstFiring_eq_some fires
  exact Rule.consumed_le found

/-- Settling goes on exactly for as long as what fires takes some text. That there is any text
left needs no check of its own, since nothing can be taken from an empty one. -/
theorem settle_eq (listener : Listener) :
    listener.settle =
      match listener.firing? with
      | none => ([], listener)
      | some firing =>
        if firing.consumed = 0 then ([firing], listener.fire firing)
        else (firing :: (listener.fire firing).settle.1, (listener.fire firing).settle.2) := by
  rw [settle, settleOnto]
  cases fires : listener.firing? with
  | none => rfl
  | some firing =>
    have guards : (firing.consumed = 0 ∨ listener.buffer = []) ↔ firing.consumed = 0 := by
      refine or_iff_left_of_imp fun empty => ?_
      have within := consumed_le_of_fires fires
      rw [empty] at within
      exact Nat.le_zero.mp within
    simp only [guards, settleOnto_eq]
    rfl

/-! ## Trimming -/

theorem keepFrom_eq (kept : List Char) (room : Nat) (reversed : List Char) :
    ∃ taken left, reversed = taken ++ left ∧ keepFrom kept room reversed = taken.reverse ++ kept ∧
      Utf8.byteLength taken ≤ room ∧
      ∀ character ∈ left.head?, room < Utf8.byteLength taken + character.utf8Size := by
  induction reversed generalizing kept room with
  | nil => exact ⟨[], [], rfl, rfl, by simp, by simp⟩
  | cons character earlier inductionHypothesis =>
    unfold keepFrom
    split
    · next fits =>
      obtain ⟨taken, left, rfl, keeps, bound, full⟩ :=
        inductionHypothesis (character :: kept) (room - character.utf8Size)
      refine ⟨character :: taken, left, rfl, by simp [keeps], ?_, fun other first => ?_⟩
      · rw [Utf8.byteLength_cons]
        omega
      · have exceeds := full other first
        rw [Utf8.byteLength_cons]
        omega
    · next exceeds =>
      refine ⟨[], character :: earlier, rfl, rfl, by simp, ?_⟩
      simpa using exceeds

theorem byteLength_reverse (text : List Char) :
    Utf8.byteLength text.reverse = Utf8.byteLength text := by
  induction text with
  | nil => rfl
  | cons character text inductionHypothesis =>
    simp [inductionHypothesis, Nat.add_comm]

/-- What is kept of a text is an end of it within the room there is, and with one
more character it would not be. -/
theorem longestEnd_eq (room : Nat) (text : List Char) :
    ∃ lost, text = lost ++ longestEnd room text ∧ Utf8.byteLength (longestEnd room text) ≤ room ∧
      ∀ character ∈ lost.getLast?,
        room < character.utf8Size + Utf8.byteLength (longestEnd room text) := by
  obtain ⟨taken, left, shape, keeps, bound, full⟩ := keepFrom_eq [] room text.reverse
  rw [List.append_nil] at keeps
  refine ⟨left.reverse, ?_, ?_, ?_⟩
  · rw [longestEnd, keeps, ← List.reverse_append, ← shape, List.reverse_reverse]
  · rwa [longestEnd, keeps, byteLength_reverse]
  · rw [longestEnd, keeps, byteLength_reverse, List.getLast?_reverse]
    intro character first
    rw [Nat.add_comm]
    exact full character first

/-- An end of a text that fits is kept. -/
theorem suffix_longestEnd {room : Nat} {text ending : List Char} (ends : ending <:+ text)
    (fits : Utf8.byteLength ending ≤ room) : ending <:+ longestEnd room text := by
  obtain ⟨lost, shape, -, full⟩ := longestEnd_eq room text
  have kept : longestEnd room text <:+ text := ⟨lost, shape.symm⟩
  rcases List.suffix_or_suffix_of_suffix ends kept with inside | beyond
  · exact inside
  · obtain ⟨more, rfl⟩ := beyond
    rcases List.eq_nil_or_concat more with rfl | ⟨front, character, rfl⟩
    · exact List.suffix_refl _
    · obtain ⟨before, total⟩ := ends
      rw [List.concat_eq_append] at total fits
      have last : lost.getLast? = some character := by
        have joined : lost ++ longestEnd room text =
            before ++ (front ++ [character]) ++ longestEnd room text := by
          rw [← shape, List.append_assoc, total]
        have alike := List.append_cancel_right joined
        simp [alike]
      have exceeds := full character last
      simp only [Utf8.byteLength_append, Utf8.byteLength_cons, Utf8.byteLength_nil] at fits
      omega

/-- Trimming leaves a text that is within its bounds as it is, and takes a part away from the
front of any other. -/
theorem trim_eq (listener : Listener) :
    (listener.bufferedBytes ≤ listener.bounds.maxBytes ∧ listener.trim = (none, listener)) ∨
      (listener.bounds.maxBytes < listener.bufferedBytes ∧
        ∃ lost, listener.buffer = lost ++ longestEnd listener.bounds.keepTail listener.buffer ∧
          listener.trim = (some (Utf8.byteLength lost),
            { listener with buffer := longestEnd listener.bounds.keepTail listener.buffer })) := by
  unfold trim
  split
  · next within => exact .inl ⟨within, rfl⟩
  · next exceeds =>
    right
    obtain ⟨lost, shape, -, -⟩ := longestEnd_eq listener.bounds.keepTail listener.buffer
    refine ⟨Nat.lt_of_not_le exceeds, lost, shape, ?_⟩
    have amount : listener.bufferedBytes -
        Utf8.byteLength (longestEnd listener.bounds.keepTail listener.buffer) =
        Utf8.byteLength lost := by
      have total := congrArg Utf8.byteLength shape
      rw [Utf8.byteLength_append] at total
      unfold bufferedBytes
      omega
    simp only [amount]

end DebugConsole.Listener
