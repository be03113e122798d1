import DebugConsole.Proofs.Json.RoundTrip
import DebugConsole.Proofs.Location
import DebugConsole.Session.Note

/-!
# Written values

The text of a value has no control character in it, so it is a single line whatever is in
its strings (`Json.printed_writeChars`). A whole number of 64 bits is read back from its
decimal digits (`Json.legible_ofNat`), as long as nothing behind it goes on with it: the
reader takes digits while the number that they form fits, and what is written fits all the
way.
-/

namespace DebugConsole

/-! ## No control characters -/

/-- No character of a text is a control character. -/
def Text.Printed (text : List Char) : Prop := ∀ character ∈ text, 0x20 ≤ character.toNat

namespace Text

instance (text : List Char) : Decidable (Printed text) :=
  List.decidableBAll (fun character : Char => 0x20 ≤ character.toNat) text

theorem Printed.append {left right : List Char} (first : Printed left) (second : Printed right) :
    Printed (left ++ right) := fun character member =>
  (List.mem_append.mp member).elim (first character) (second character)

theorem Printed.cons {character : Char} {text : List Char} (here : 0x20 ≤ character.toNat)
    (others : Printed text) : Printed (character :: text) :=
  List.forall_mem_cons.mpr ⟨here, others⟩

theorem Printed.of_subset {text part : List Char} (printed : Printed text) (within : part ⊆ text) :
    Printed part := fun character member => printed character (within member)

theorem printed_replicate {character : Char} (here : 0x20 ≤ character.toNat) (count : Nat) :
    Printed (List.replicate count character) := fun _ member =>
  List.eq_of_mem_replicate member ▸ here

theorem Printed.newline_not_mem {text : List Char} (printed : Printed text) : '\n' ∉ text :=
  fun member => absurd (printed _ member) (by decide)

theorem printed_toDigits (number : Nat) : Printed (Nat.toDigits 10 number) := by
  intro character member
  obtain ⟨digit, small, rfl⟩ := Numeral.exists_digitChar (Numeral.ofNat_isDigit member)
  interval_cases digit <;> decide

end Text

open Text

/-- A double is written in digits, a point, signs and the letter of an exponent. -/
theorem Double.printed_text (value : Double) : Printed value.text.toList := by
  have digits : Printed (Nat.toDigits 10 value.shortest.digits) := printed_toDigits _
  have zeros : ∀ count, Printed (List.replicate count '0') := printed_replicate (by decide)
  have sign : Printed (if value.negative then "-" else "").toList := by split <;> decide
  simp only [text]
  split
  · rw [String.toList_append]
    exact sign.append (by decide)
  · rw [String.toList_append, String.toList_ofList]
    refine sign.append ?_
    split
    · exact (digits.append (zeros _)).append (by decide)
    split
    · exact ((digits.of_subset (List.take_subset _ _)).append (by decide)).append
        (digits.of_subset (List.drop_subset _ _))
    split
    · exact (Printed.append (by decide) (zeros _)).append digits
    · have letter : ∀ exponent : Int, Printed ['e', if exponent < 0 then '-' else '+'] := by
        intro exponent
        split <;> decide
      refine (Printed.append ?_ (letter _)).append (printed_toDigits _)
      split
      · next shape => exact shape ▸ digits
      · next first later _ shape =>
        rw [shape] at digits
        obtain ⟨here, others⟩ := List.forall_mem_cons.mp digits
        exact (Printed.cons (by decide) others).cons here
      · decide

namespace Json

theorem printed_hexDigit : ∀ value < 16, 0x20 ≤ (hexDigit value).toNat := by decide

theorem printed_escapeChar (character : Char) : Printed (escapeChar character) := by
  unfold escapeChar
  split
  case h_8 =>
    split
    · next control =>
      have high := printed_hexDigit (character.toNat / 16) (by omega)
      have low := printed_hexDigit (character.toNat % 16) (by omega)
      simp [Printed, high, low]
    · next printed => simpa [Printed] using printed
  all_goals decide

theorem printed_writeString (text : String) : Printed (writeString text) := by
  have characters : Printed (text.toList.flatMap escapeChar) := by
    intro character member
    obtain ⟨source, -, inside⟩ := List.mem_flatMap.mp member
    exact printed_escapeChar source character inside
  exact (characters.cons (by decide)).append (by decide)

theorem printed_number (value : Number) : Printed value.text.toList := by
  cases value with
  | whole value =>
    cases value with
    | ofNat value =>
      have written : (Number.text (.whole (.ofNat value))).toList = Numeral.ofNat value :=
        Numeral.toList_toString value
      rw [written]
      exact printed_toDigits value
    | negSucc value =>
      have written : (Number.text (.whole (.negSucc value))).toList =
          '-' :: Numeral.ofNat (value + 1) := by
        have sign : Number.text (.whole (.negSucc value)) = "-" ++ toString (value + 1) := rfl
        rw [sign, String.toList_append, Numeral.toList_toString]
        rfl
      rw [written]
      exact (printed_toDigits (value + 1)).cons (by decide)
  | double value => exact value.printed_text

mutual

/-- The text of a value has no control character. -/
theorem printed_writeChars : (value : Json) → Printed value.writeChars
  | .null | .bool true | .bool false | .array [] | .object [] => by
    simp only [writeChars]
    decide
  | .number value => by
    rw [writeChars]
    exact printed_number value
  | .string value => by
    rw [writeChars]
    exact printed_writeString value
  | .array (first :: later) => by
    rw [writeChars]
    exact ((printed_writeChars first).append (printed_writeElements later)).cons (by decide)
  | .object ((name, value) :: later) => by
    rw [writeChars]
    exact (((printed_writeString name).append
      ((printed_writeChars value).cons (by decide))).append (printed_writeMembers later)).cons
      (by decide)

theorem printed_writeElements : (elements : List Json) → Printed (writeElements elements)
  | [] => by
    rw [writeElements]
    decide
  | element :: later => by
    rw [writeElements]
    exact ((printed_writeChars element).append (printed_writeElements later)).cons (by decide)

theorem printed_writeMembers :
    (members : List (String × Json)) → Printed (writeMembers members)
  | [] => by
    rw [writeMembers]
    decide
  | (name, value) :: later => by
    rw [writeMembers]
    exact (((printed_writeString name).append
      ((printed_writeChars value).cons (by decide))).append (printed_writeMembers later)).cons
      (by decide)

end

end Json

namespace Json

/-! ## Whole numbers -/

/-- A number is written with a leading zero only if it is zero. -/
theorem head?_ofNat {number : Nat} (positive : 0 < number) :
    (Numeral.ofNat number).head? ≠ some '0' := by
  induction number using Nat.strongRecOn with
  | ind number inductionHypothesis =>
    rcases Nat.lt_or_ge number 10 with small | large
    · rw [Numeral.ofNat, Nat.toDigits_of_lt_base small]
      interval_cases number <;> decide
    · have front := inductionHypothesis (number / 10) (by omega) (by omega)
      rw [Numeral.ofNat, Nat.toDigits_of_base_le (by omega) large, ← Numeral.ofNat,
        List.head?_append_of_ne_nil _ (Numeral.ofNat_ne_nil _)]
      exact front

/-- A whole number of 64 bits is read back wherever it stands. -/
theorem legible_ofNat {value : Nat} (fits : value ≤ largestWhole) (depth : Nat) :
    Legible depth (ofNat value) := by
  refine .number fun fuel rest _ ends => ?_
  have written : writeChars (.number (.whole value)) = Numeral.ofNat value :=
    Numeral.toList_toString value
  have number : digitsNumber (Numeral.ofNat value) = value := Nat.ofDigitChars_ten_toDigits
  have unpadded : (Numeral.ofNat value).head? = some '0' → Numeral.ofNat value = ['0'] := by
    intro zero
    rcases Nat.eq_zero_or_pos value with rfl | positive
    · rfl
    · exact absurd zero (head?_ofNat positive)
  have digits : Digits (Numeral.ofNat value) :=
    ⟨Numeral.ofNat_ne_nil value, fun _ => Numeral.ofNat_isDigit⟩
  have unsigned : SpellsUnsigned (Numeral.ofNat value) ⟨false, Numeral.ofNat value, [], none⟩ := by
    simpa using SpellsUnsigned.parts digits unpadded .none .none
  have kept : Literal.number? ⟨false, Numeral.ofNat value, [], none⟩ = some (.whole value) := by
    simp [Literal.number?, Literal.whole?, number, fits]
  rw [written]
  exact (SpellsScalar.positive unsigned rfl kept).readValue fuel depth ends

end Json

end DebugConsole
