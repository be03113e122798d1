import DebugConsole.Proofs.Json.Grammar
import DebugConsole.Proofs.Location
import Mathlib.Data.List.Basic
import Mathlib.Tactic.Tauto

/-!
# Numbers are read exactly

What is read as a number is one of the grammar, and is kept as the grammar says
(`Json.exists_of_readNumber`). A number of the grammar is read in front of every text that
does not go on with it (`Json.SpellsUnsigned.readNumber`), unless its double is too large.
-/

namespace DebugConsole.Json

/-! ## Digits -/

/-- No digit stands in front. -/
def Undigited (text : List Char) : Prop := text.head?.any Char.isDigit = false

/-- Every text starts with some digits, possibly none, and goes on without. -/
theorem exists_digits (text : List Char) :
    ∃ digits rest, text = digits ++ rest ∧ (∀ character ∈ digits, character.isDigit = true) ∧
      Undigited rest := by
  refine ⟨text.takeWhile Char.isDigit, text.dropWhile Char.isDigit,
    List.takeWhile_append_dropWhile.symm, List.all_eq_true.mp List.all_takeWhile, ?_⟩
  have stops := List.head?_dropWhile_not Char.isDigit text
  unfold Undigited
  cases found : (text.dropWhile Char.isDigit).head? with
  | none => rfl
  | some character => simpa [found] using stops

section

variable {digits rest : List Char} (ascii : ∀ character ∈ digits, character.isDigit = true)
  (ends : Undigited rest)

include ends

theorem Undigited.takeWhile_eq : rest.takeWhile Char.isDigit = [] := by
  cases rest with
  | nil => rfl
  | cons character rest => exact List.takeWhile_cons_of_neg (by simpa [Undigited] using ends)

theorem Undigited.dropWhile_eq : rest.dropWhile Char.isDigit = rest := by
  cases rest with
  | nil => rfl
  | cons character rest => exact List.dropWhile_cons_of_neg (by simpa [Undigited] using ends)

include ascii

theorem takeWhile_digits : (digits ++ rest).takeWhile Char.isDigit = digits := by
  rw [List.takeWhile_append_of_pos ascii, ends.takeWhile_eq, List.append_nil]

theorem dropWhile_digits : (digits ++ rest).dropWhile Char.isDigit = rest := by
  rw [List.dropWhile_append_of_pos ascii, ends.dropWhile_eq]

/-- Digits are taken from a text as from the digits in front of it alone. -/
theorem takeDigits_front (value count : Nat) :
    ∃ kept taken late, takeDigits value count digits = (kept, taken, late) ∧
      takeDigits value count (digits ++ rest) = (kept, taken, late ++ rest) ∧
      ∀ character ∈ late, character.isDigit = true := by
  induction digits generalizing value count with
  | nil =>
    refine ⟨value, count, [], rfl, ?_, by simp⟩
    cases rest with
    | nil => rfl
    | cons character rest =>
      have other : character.isDigit = false := by simpa [Undigited] using ends
      simp [takeDigits, other]
  | cons character digits inductionHypothesis =>
    obtain ⟨here, others⟩ := List.forall_mem_cons.mp ascii
    rw [List.cons_append, takeDigits, takeDigits]
    split
    · exact inductionHypothesis others _ _
    · exact ⟨value, count, character :: digits, rfl, rfl, ascii⟩

end

theorem ofDigitChars_cons (character : Char) (digits : List Char) (value : Nat) :
    Nat.ofDigitChars 10 (character :: digits) value =
      Nat.ofDigitChars 10 digits (value * 10 + digitValue character) := by
  rw [Nat.ofDigitChars_cons, Nat.mul_comm]
  rfl

theorem foldl_digitValue (digits : List Char) (value : Nat) :
    digits.foldl (fun value digit => value * 10 + digitValue digit) value =
      Nat.ofDigitChars 10 digits value := by
  induction digits generalizing value with
  | nil => rfl
  | cons character digits inductionHypothesis =>
    rw [List.foldl_cons, inductionHypothesis, ofDigitChars_cons]

theorem foldl_digitsNumber (digits : List Char) :
    digits.foldl (fun value digit => value * 10 + digitValue digit) 0 = digitsNumber digits :=
  foldl_digitValue digits 0

/-- Digits are all taken if the number that they form fits, and some are left if it does not. -/
theorem takeDigits_cases {digits : List Char}
    (ascii : ∀ character ∈ digits, character.isDigit = true) {value : Nat}
    (small : value ≤ largestWhole) (count : Nat) :
    Nat.ofDigitChars 10 digits value ≤ largestWhole ∧
        (∃ taken, takeDigits value count digits = (Nat.ofDigitChars 10 digits value, taken, [])) ∨
      largestWhole < Nat.ofDigitChars 10 digits value ∧
        ∃ kept taken first others,
          takeDigits value count digits = (kept, taken, first :: others) := by
  induction digits generalizing value count with
  | nil => exact .inl ⟨small, count, rfl⟩
  | cons character digits inductionHypothesis =>
    obtain ⟨digit, others⟩ := List.forall_mem_cons.mp ascii
    rw [ofDigitChars_cons, takeDigits, digit, Bool.true_and]
    by_cases fits : value * 10 + digitValue character ≤ largestWhole
    · rw [if_pos (decide_eq_true fits)]
      exact inductionHypothesis others fits (count + 1)
    · rw [if_neg (by simpa using fits)]
      have exceeds := Nat.lt_of_lt_of_le (Nat.lt_of_not_le fits)
        (Numeral.le_ofDigitChars digits _)
      exact .inr ⟨exceeds, value, count, character, digits, rfl⟩

/-! ## Powers of ten -/

/-- The sign in front of the digits of a power of ten, and the text behind it. -/
def powerSign (text : List Char) : Bool × List Char :=
  match text with
  | '+' :: rest => (false, rest)
  | '-' :: rest => (true, rest)
  | _ => (false, text)

/-- Reads a power of ten from behind its sign on. -/
def readPower (negative : Bool) (digits : Nat) (shift : Int) (down : Bool) (text : List Char) :
    Option (Number × List Char) :=
  let written := text.takeWhile Char.isDigit
  if written = [] then none
  else
    (Literal.scaled? negative digits shift
      (some (if down then -digitsNumber written else digitsNumber written))).map
        fun value => (.double value, text.dropWhile Char.isDigit)

theorem drop_takeWhile (text : List Char) :
    text.drop (text.takeWhile Char.isDigit).length = text.dropWhile Char.isDigit := by
  have parts := List.takeWhile_append_dropWhile (p := Char.isDigit) (l := text)
  generalize text.takeWhile Char.isDigit = digits at parts
  generalize text.dropWhile Char.isDigit = rest at parts
  rw [← parts, List.drop_left]

theorem readExponent_eq (negative : Bool) (digits : Nat) (shift : Int) (text : List Char) :
    readExponent negative digits shift text =
      readPower negative digits shift (powerSign text).1 (powerSign text).2 := by
  unfold readExponent powerSign
  dsimp only
  split
  all_goals
    unfold readPower Literal.scaled?
    simp only [foldl_digitsNumber, drop_takeWhile]
    generalize List.takeWhile Char.isDigit _ = written
    by_cases nothing : written = []
    · simp [nothing]
    · by_cases within : digitsNumber written ≤ largestExponent
      · simp only [nothing, within, List.isEmpty_iff, Bool.false_eq_true, if_false, if_true,
          Int.natAbs_neg, Int.natAbs_natCast, Int.sub_eq_add_neg]
        exact Option.map_eq_bind.symm
      · have positive : 0 < digitsNumber written := by omega
        have unsigned : ¬ (digitsNumber written : Int) < 0 := by omega
        simp [nothing, within, positive, unsigned]

variable {negative : Bool} {digits : Nat} {shift : Int}

theorem readPower_digits {written rest : List Char} (spelled : Digits written)
    (ends : Undigited rest) (down : Bool) :
    readPower negative digits shift down (written ++ rest) =
      (Literal.scaled? negative digits shift
        (some (if down then -digitsNumber written else digitsNumber written))).map
          fun value => (.double value, rest) := by
  unfold readPower
  simp only [takeWhile_digits spelled.ascii ends, dropWhile_digits spelled.ascii ends,
    if_neg spelled.nonempty]

theorem readPower_undigited {text : List Char} (ends : Undigited text) (down : Bool) :
    readPower negative digits shift down text = none := by
  unfold readPower
  simp only [ends.takeWhile_eq, if_true]

theorem powerSign_digits {written : List Char} (spelled : Digits written) (rest : List Char) :
    powerSign (written ++ rest) = (false, written ++ rest) := by
  obtain ⟨first, others, rfl⟩ := List.exists_cons_of_ne_nil spelled.nonempty
  have digit := spelled.ascii first List.mem_cons_self
  unfold powerSign
  split
  · next same =>
    obtain ⟨rfl, -⟩ := List.cons.inj same
    cases digit
  · next same =>
    obtain ⟨rfl, -⟩ := List.cons.inj same
    cases digit
  · rfl

/-- A spelled power of ten is read from behind its letter on. -/
theorem readExponent_spelled {letter : Char} {written rest : List Char} {exponent : Int}
    (spelled : SpellsExponent (letter :: written) (some exponent)) (ends : Undigited rest) :
    readExponent negative digits shift (written ++ rest) =
      (Literal.scaled? negative digits shift (some exponent)).map
        fun value => (.double value, rest) := by
  rw [readExponent_eq]
  cases spelled with
  | @up _ sign power named signed spelled =>
    rcases signed with rfl | rfl
    · rw [List.nil_append, powerSign_digits spelled, readPower_digits spelled ends]
      rfl
    · have sign : powerSign (['+'] ++ power ++ rest) = (false, power ++ rest) := rfl
      rw [sign, readPower_digits spelled ends]
      rfl
  | @down _ power named spelled =>
    have sign : powerSign ('-' :: power ++ rest) = (true, power ++ rest) := rfl
    rw [sign, readPower_digits spelled ends]
    rfl

/-- What is read of a power of ten has a spelling. -/
theorem exists_of_readExponent {text rest : List Char} {number : Number}
    (reads : readExponent negative digits shift text = some (number, rest)) :
    ∃ written exponent, text = written ++ rest ∧
      (∀ letter, letter = 'e' ∨ letter = 'E' → SpellsExponent (letter :: written) (some exponent)) ∧
      (Literal.scaled? negative digits shift (some exponent)).map .double = some number := by
  rw [readExponent_eq] at reads
  -- The digits are the longest ones behind the sign.
  have power : ∀ down behind, readPower negative digits shift down behind = some (number, rest) →
      ∃ written, behind = written ++ rest ∧ Digits written ∧
        (Literal.scaled? negative digits shift
          (some (if down then -digitsNumber written else digitsNumber written))).map .double =
            some number := by
    intro down behind reads
    obtain ⟨written, others, rfl, ascii, ends⟩ := exists_digits behind
    by_cases nothing : written = []
    · rw [nothing, List.nil_append, readPower_undigited ends] at reads
      cases reads
    · have spelled : Digits written := ⟨nothing, ascii⟩
      rw [readPower_digits spelled ends, Option.map_eq_some_iff] at reads
      obtain ⟨value, scaled, same⟩ := reads
      obtain ⟨rfl, rfl⟩ := Prod.mk.inj same
      exact ⟨written, rfl, spelled, by rw [scaled]; rfl⟩
  unfold powerSign at reads
  split at reads
  · obtain ⟨written, rfl, spelled, value⟩ := power _ _ reads
    exact ⟨'+' :: written, _, rfl, fun letter named => .up named (.inr rfl) spelled, value⟩
  · obtain ⟨written, rfl, spelled, value⟩ := power _ _ reads
    exact ⟨'-' :: written, _, rfl, fun letter named => .down named spelled, value⟩
  · obtain ⟨written, rfl, spelled, value⟩ := power _ _ reads
    exact ⟨written, _, rfl, fun letter named => .up named (.inl rfl) spelled, value⟩

/-- Would a text go on with a number that stands in front of it? -/
def continuesNumber (text : List Char) : Bool :=
  text.head?.any fun character =>
    character.isDigit || character == '.' || character == 'e' || character == 'E'

/-- A power of ten starts with its letter. -/
theorem SpellsExponent.shape {written : List Char} {exponent : Option Int}
    (spelled : SpellsExponent written exponent) :
    written = [] ∧ exponent = Option.none ∨
      ∃ letter others power, (letter = 'e' ∨ letter = 'E') ∧ written = letter :: others ∧
        exponent = some power := by
  cases spelled with
  | none => exact .inl ⟨rfl, rfl⟩
  | up named => exact .inr ⟨_, _, _, named, rfl, rfl⟩
  | down named => exact .inr ⟨_, _, _, named, rfl, rfl⟩

/-- A text that does not go on with a number has no digit in front. -/
theorem undigited_of_ends {rest : List Char} (ends : continuesNumber rest = false) :
    Undigited rest := by
  cases rest with
  | nil => rfl
  | cons character rest => simp_all [continuesNumber, Undigited]

theorem SpellsExponent.undigited {written rest : List Char} {exponent : Option Int}
    (spelled : SpellsExponent written exponent) (ends : continuesNumber rest = false) :
    Undigited (written ++ rest) := by
  rcases spelled.shape with ⟨rfl, rfl⟩ | ⟨letter, others, power, rfl | rfl, rfl, rfl⟩
  · exact undigited_of_ends ends
  · rfl
  · rfl

/-- A power of ten is read, if there is one, behind the digits of a number. -/
theorem readTail_spelled {written rest : List Char} {exponent : Option Int}
    (spelled : SpellsExponent written exponent) (ends : continuesNumber rest = false) :
    readTail negative digits shift (written ++ rest) =
      (Literal.scaled? negative digits shift exponent).map fun value => (.double value, rest) := by
  rcases spelled.shape with ⟨rfl, rfl⟩ | ⟨letter, others, power, rfl | rfl, rfl, rfl⟩
  · rw [List.nil_append]
    unfold readTail
    split
    · cases ends
    · cases ends
    · rfl
  · exact readExponent_spelled spelled (undigited_of_ends ends)
  · exact readExponent_spelled spelled (undigited_of_ends ends)

/-- What is read of the end of a number has a spelling. -/
theorem exists_of_readTail {text rest : List Char} {number : Number}
    (reads : readTail negative digits shift text = some (number, rest)) :
    ∃ written exponent, text = written ++ rest ∧ SpellsExponent written exponent ∧
      (Literal.scaled? negative digits shift exponent).map .double = some number := by
  unfold readTail at reads
  split at reads
  · obtain ⟨written, exponent, rfl, spelled, value⟩ := exists_of_readExponent reads
    exact ⟨'e' :: written, some exponent, rfl, spelled 'e' (.inl rfl), value⟩
  · obtain ⟨written, exponent, rfl, spelled, value⟩ := exists_of_readExponent reads
    exact ⟨'E' :: written, some exponent, rfl, spelled 'E' (.inr rfl), value⟩
  · obtain ⟨value, scaled, same⟩ := Option.map_eq_some_iff.mp reads
    obtain ⟨rfl, rfl⟩ := Prod.mk.inj same
    exact ⟨[], none, rfl, .none, by rw [Literal.scaled?, scaled]; rfl⟩

/-! ## Fractions -/

/-- What is kept of a number whose digits in front of the point have been taken, up to some
that did not fit. -/
def Literal.ofParts? (negative : Bool) (digits dropped : Nat) (fraction : List Char)
    (exponent : Option Int) : Option Number :=
  if fraction = [] ∧ exponent = none ∧ dropped = 0 then
    if negative = false then some (.whole digits)
    else if digits = 0 ∨ leastMagnitude < digits then (Double.ofNat? true digits).map .double
    else some (.whole (-digits))
  else
    let (digits, count, _) := takeDigits digits 0 fraction
    (scaled? negative digits (dropped - count) exponent).map .double

variable {dropped : Nat}

/-- The digits behind a point are read, and a power of ten behind them. -/
theorem readFraction_spelled {fraction written rest : List Char} {exponent : Option Int}
    (digital : Digits fraction) (spelled : SpellsExponent written exponent)
    (ends : continuesNumber rest = false) :
    readFraction negative digits dropped (fraction ++ (written ++ rest)) =
      (Literal.ofParts? negative digits dropped fraction exponent).map
        fun number => (number, rest) := by
  have behind := spelled.undigited ends
  obtain ⟨kept, taken, late, alone, within, ascii⟩ :=
    takeDigits_front digital.ascii behind digits 0
  have digit : (fraction ++ (written ++ rest)).head?.any Char.isDigit = true := by
    obtain ⟨first, others, rfl⟩ := List.exists_cons_of_ne_nil digital.nonempty
    exact digital.ascii first List.mem_cons_self
  unfold readFraction Literal.ofParts?
  rw [if_pos digit, if_neg fun empty => digital.nonempty empty.1]
  simp only [within, alone, dropWhile_digits ascii behind, readTail_spelled spelled ends,
    Option.map_map]
  rfl

/-- What is read behind a point has a spelling. -/
theorem exists_of_readFraction {text rest : List Char} {number : Number}
    (reads : readFraction negative digits dropped text = some (number, rest)) :
    ∃ fraction written exponent, text = fraction ++ (written ++ rest) ∧ Digits fraction ∧
      SpellsExponent written exponent ∧
      Literal.ofParts? negative digits dropped fraction exponent = some number := by
  obtain ⟨fraction, behind, rfl, ascii, ends⟩ := exists_digits text
  obtain ⟨kept, taken, late, alone, within, further⟩ := takeDigits_front ascii ends digits 0
  unfold readFraction at reads
  split at reads
  · next digit =>
    have nonempty : fraction ≠ [] := by
      rintro rfl
      exact Bool.eq_false_iff.mp ends digit
    simp only [within, dropWhile_digits further ends] at reads
    obtain ⟨written, exponent, rfl, spelled, value⟩ := exists_of_readTail reads
    refine ⟨fraction, written, exponent, rfl, ⟨nonempty, ascii⟩, spelled, ?_⟩
    rw [Literal.ofParts?, if_neg fun empty => nonempty empty.1]
    simpa only [alone] using value
  · cases reads

/-! ## Behind the digits in front of the point -/

/-- Without a fraction, digits that did not fit or a power of ten make a double. -/
theorem Literal.ofParts?_scaled {exponent : Option Int} (scaled : dropped ≠ 0 ∨ exponent ≠ none) :
    ofParts? negative digits dropped [] exponent =
      (scaled? negative digits dropped exponent).map .double := by
  have parts : ¬ (([] : List Char) = [] ∧ exponent = none ∧ dropped = 0) := by tauto
  rw [ofParts?, if_neg parts, takeDigits]
  simp

theorem Literal.ofParts?_plain :
    ofParts? negative digits 0 [] none =
      if negative = false then some (.whole digits)
      else if digits = 0 ∨ leastMagnitude < digits then (Double.ofNat? true digits).map .double
      else some (.whole (-digits)) :=
  if_pos ⟨rfl, rfl, rfl⟩

/-- A number that has neither a fraction nor a power of ten ends with its digits. -/
theorem afterWhole_plain {text : List Char} (pointless : ∀ rest, text ≠ '.' :: rest)
    (lower : ∀ rest, text ≠ 'e' :: rest) (upper : ∀ rest, text ≠ 'E' :: rest) :
    readNumber.afterWhole negative digits dropped text =
      (Literal.ofParts? negative digits dropped [] none).map fun number => (number, text) := by
  unfold readNumber.afterWhole
  split
  · exact absurd rfl (pointless _)
  · exact absurd rfl (lower _)
  · exact absurd rfl (upper _)
  · by_cases fits : dropped = 0
    · rw [if_neg (not_not_intro fits), fits, Literal.ofParts?_plain]
      cases negative with
      | false => rfl
      | true =>
        by_cases doubled : digits = 0 ∨ leastMagnitude < digits
        · simp [doubled, Function.comp_def]
        · simp [doubled]
    · rw [if_pos fits, Literal.ofParts?_scaled (.inl fits), Option.map_map]
      unfold readTail
      split
      · exact absurd rfl (lower _)
      · exact absurd rfl (upper _)
      · rfl

/-- A power of ten that stands right behind the digits is read. -/
theorem afterWhole_power {letter : Char} {written rest : List Char} {exponent : Int}
    (spelled : SpellsExponent (letter :: written) (some exponent)) (ends : Undigited rest) :
    readNumber.afterWhole negative digits dropped (letter :: (written ++ rest)) =
      (Literal.ofParts? negative digits dropped [] (some exponent)).map
        fun number => (number, rest) := by
  have named : letter = 'e' ∨ letter = 'E' := by
    cases spelled with
    | up named => exact named
    | down named => exact named
  have opened : readNumber.afterWhole negative digits dropped (letter :: (written ++ rest)) =
      readExponent negative digits dropped (written ++ rest) := by
    rcases named with rfl | rfl <;> rfl
  rw [opened, readExponent_spelled spelled ends,
    Literal.ofParts?_scaled (.inr (Option.some_ne_none exponent)), Option.map_map]
  rfl

theorem afterWhole_spelled {fractionText fraction written rest : List Char}
    {exponent : Option Int} (hasFraction : SpellsFraction fractionText fraction)
    (spelled : SpellsExponent written exponent) (ends : continuesNumber rest = false) :
    readNumber.afterWhole negative digits dropped (fractionText ++ (written ++ rest)) =
      (Literal.ofParts? negative digits dropped fraction exponent).map
        fun number => (number, rest) := by
  cases hasFraction with
  | digits digital => exact readFraction_spelled digital spelled ends
  | none =>
    rcases spelled.shape with ⟨rfl, rfl⟩ | ⟨letter, others, power, -, rfl, rfl⟩
    · refine afterWhole_plain ?_ ?_ ?_ <;> rintro others rfl <;> cases ends
    · exact afterWhole_power spelled (undigited_of_ends ends)

/-- What is read behind the digits in front of the point has a spelling. -/
theorem exists_of_afterWhole {text rest : List Char} {number : Number}
    (reads : readNumber.afterWhole negative digits dropped text = some (number, rest)) :
    ∃ fractionText fraction written exponent, text = fractionText ++ (written ++ rest) ∧
      SpellsFraction fractionText fraction ∧ SpellsExponent written exponent ∧
      Literal.ofParts? negative digits dropped fraction exponent = some number := by
  have powered : ∀ letter behind, letter = 'e' ∨ letter = 'E' →
      readExponent negative digits dropped behind = some (number, rest) →
      ∃ written exponent, letter :: behind = written ++ rest ∧ SpellsExponent written exponent ∧
        Literal.ofParts? negative digits dropped [] exponent = some number := by
    intro letter behind named reads
    obtain ⟨written, exponent, rfl, spelled, value⟩ := exists_of_readExponent reads
    refine ⟨letter :: written, some exponent, rfl, spelled letter named, ?_⟩
    rw [Literal.ofParts?_scaled (.inr (Option.some_ne_none exponent)), value]
  by_cases pointed : ∃ behind, text = '.' :: behind
  · obtain ⟨behind, rfl⟩ := pointed
    obtain ⟨fraction, written, exponent, rfl, digital, spelled, value⟩ :=
      exists_of_readFraction reads
    exact ⟨_, fraction, written, exponent, rfl, .digits digital, spelled, value⟩
  · by_cases lettered : ∃ letter behind, (letter = 'e' ∨ letter = 'E') ∧ text = letter :: behind
    · obtain ⟨letter, behind, named, rfl⟩ := lettered
      have opened : readExponent negative digits dropped behind = some (number, rest) := by
        rw [← reads]
        rcases named with rfl | rfl <;> rfl
      obtain ⟨written, exponent, parts, spelled, value⟩ := powered letter behind named opened
      exact ⟨[], [], written, exponent, parts, .none, spelled, value⟩
    · rw [afterWhole_plain (fun behind same => pointed ⟨behind, same⟩)
        (fun behind same => lettered ⟨'e', behind, .inl rfl, same⟩)
        (fun behind same => lettered ⟨'E', behind, .inr rfl, same⟩)] at reads
      obtain ⟨_, value, same⟩ := Option.map_eq_some_iff.mp reads
      obtain ⟨rfl, rfl⟩ := Prod.mk.inj same
      exact ⟨[], [], [], none, rfl, .none, .none, value⟩

/-! ## Whole numbers -/

/-- A number with a fraction, a power of ten or digits that do not fit is no whole one. -/
theorem Literal.whole?_eq_none {literal : Literal}
    (scaled : ¬ (literal.fraction = [] ∧ literal.exponent = none) ∨
      largestWhole < digitsNumber literal.whole) : literal.whole? = none := by
  have magnitudes : leastMagnitude ≤ largestWhole := by decide
  rw [whole?]
  rcases scaled with unplain | exceeds
  · exact if_pos (by tauto)
  · have nonnegative : ¬ digitsNumber literal.whole ≤ largestWhole := Nat.not_le_of_lt exceeds
    have negative : ¬ (0 < digitsNumber literal.whole ∧
        digitsNumber literal.whole ≤ leastMagnitude) := by omega
    rw [if_neg nonnegative, if_neg negative, ite_self, ite_self]

/-- A number that is nothing but digits is kept as a whole one where it fits. -/
theorem Literal.number?_plain {whole : List Char} {taken : Nat}
    (fits : digitsNumber whole ≤ largestWhole)
    (all : takeDigits 0 0 whole = (digitsNumber whole, taken, [])) :
    number? ⟨negative, whole, [], none⟩ = ofParts? negative (digitsNumber whole) 0 [] none := by
  rw [ofParts?_plain, number?]
  cases negative with
  | false => simp [whole?, fits]
  | true =>
    simp only [whole?, double?, all]
    generalize digitsNumber whole = value
    by_cases kept : 0 < value ∧ value ≤ leastMagnitude
    · have fitting : ¬ (value = 0 ∨ leastMagnitude < value) := by omega
      simp [kept, fitting]
    · have doubled : value = 0 ∨ leastMagnitude < value := by omega
      simp [kept, doubled]

/-- What is kept of a number depends on its digits in front of the point through those that
are taken. -/
theorem Literal.number?_eq {literal : Literal} (spelled : Digits literal.whole) :
    literal.number? =
      ofParts? literal.negative (takeDigits 0 0 literal.whole).1
        (takeDigits 0 0 literal.whole).2.2.length literal.fraction literal.exponent := by
  rcases takeDigits_cases spelled.ascii (Nat.zero_le largestWhole) 0 with
    ⟨fits, taken, parts⟩ | ⟨exceeds, kept, taken, first, others, parts⟩
  · have all : takeDigits 0 0 literal.whole = (digitsNumber literal.whole, taken, []) := parts
    by_cases plain : literal.fraction = [] ∧ literal.exponent = none
    · obtain ⟨negative, whole, fraction, exponent⟩ := literal
      obtain ⟨rfl, rfl⟩ : fraction = [] ∧ exponent = none := plain
      rw [number?_plain fits all]
      simp only [all, List.length_nil]
    · rw [number?, whole?_eq_none (.inl plain), double?, all, ofParts?]
      simp [plain]
  · rw [number?, whole?_eq_none (.inr exceeds), double?, parts, ofParts?]
    simp

/-! ## Numbers -/

/-- Digits that stand in front of no more digits are the part in front of the point. -/
theorem readNumber_digits {whole rest : List Char} (spelled : Digits whole)
    (unpadded : whole.head? = some '0' → whole = ['0']) (ends : Undigited rest) :
    readNumber negative (whole ++ rest) =
      readNumber.afterWhole negative (takeDigits 0 0 whole).1 (takeDigits 0 0 whole).2.2.length
        rest := by
  obtain ⟨kept, taken, late, alone, within, ascii⟩ := takeDigits_front spelled.ascii ends 0 0
  obtain ⟨first, others, rfl⟩ := List.exists_cons_of_ne_nil spelled.nonempty
  have digit : first.isDigit = true := spelled.ascii first List.mem_cons_self
  rw [List.cons_append] at within ⊢
  unfold readNumber
  split
  · next same =>
    obtain ⟨rfl, rfl⟩ := List.cons.inj same
    obtain rfl : others = [] := (List.cons.inj (unpadded rfl)).2
    exact if_neg (Bool.eq_false_iff.mp ends)
  · next same =>
    obtain ⟨rfl, rfl⟩ := List.cons.inj same
    simp only [digit, within, alone, takeWhile_digits ascii ends, List.drop_left]
    rfl
  · next impossible => cases impossible

/-- A spelled number is read, as what is kept of it, in front of a text that does not go on
with it. -/
theorem SpellsUnsigned.readNumber {text rest : List Char} {literal : Literal}
    (spelled : SpellsUnsigned text literal) (ends : continuesNumber rest = false) :
    readNumber literal.negative (text ++ rest) =
      literal.number?.map fun number => (number, rest) := by
  cases spelled with
  | @parts negative whole fraction fractionText exponentText exponent written unpadded
      hasFraction hasExponent =>
    have behind : Undigited (fractionText ++ (exponentText ++ rest)) := by
      cases hasFraction with
      | none => exact hasExponent.undigited ends
      | digits => rfl
    rw [List.append_assoc, List.append_assoc, readNumber_digits written unpadded behind,
      afterWhole_spelled hasFraction hasExponent ends, Literal.number?_eq written]

/-- A number starts with a digit, and with a zero only if no digit follows. -/
theorem digits_of_readNumber {text rest : List Char} {number : Number}
    (reads : readNumber negative text = some (number, rest)) :
    ∃ whole behind, text = whole ++ behind ∧ Digits whole ∧
      (whole.head? = some '0' → whole = ['0']) ∧ Undigited behind := by
  obtain ⟨whole, behind, rfl, ascii, ends⟩ := exists_digits text
  refine ⟨whole, behind, rfl, ⟨?_, ascii⟩, ?_, ends⟩
  · rintro rfl
    rw [List.nil_append] at reads
    unfold readNumber at reads
    split at reads
    · cases ends
    · next first others _ =>
      have other : first.isDigit = false := ends
      simp [other] at reads
    · cases reads
  · intro zero
    obtain ⟨others, rfl⟩ := List.head?_eq_some_iff.mp zero
    cases others with
    | nil => rfl
    | cons second others =>
      have digit : second.isDigit = true := ascii second (by simp)
      simp [readNumber, digit] at reads

/-- A number that is read has a spelling. -/
theorem exists_of_readNumber {text rest : List Char} {number : Number}
    (reads : readNumber negative text = some (number, rest)) :
    ∃ written literal, text = written ++ rest ∧ SpellsUnsigned written literal ∧
      literal.negative = negative ∧ literal.number? = some number := by
  obtain ⟨whole, behind, rfl, digital, unpadded, ends⟩ := digits_of_readNumber reads
  rw [readNumber_digits digital unpadded ends] at reads
  obtain ⟨fractionText, fraction, written, exponent, rfl, hasFraction, hasExponent, value⟩ :=
    exists_of_afterWhole reads
  refine ⟨whole ++ (fractionText ++ written), ⟨negative, whole, fraction, exponent⟩,
    by simp only [List.append_assoc], .parts digital unpadded hasFraction hasExponent, rfl, ?_⟩
  rw [Literal.number?_eq digital, value]

end DebugConsole.Json
