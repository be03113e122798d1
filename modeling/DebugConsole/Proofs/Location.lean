import DebugConsole.Location
import DebugConsole.Text.Digit
import Mathlib.Data.List.TakeWhile
import Mathlib.Tactic.IntervalCases

/-!
# Locations from texts

Which texts of a file name and of a line number are a location, said without the functions
that read them (`Location.resolve_eq_ok_iff`): white space around either aside, the name is
not empty, and the line is a decimal numeral of a positive number of 32 bits, possibly with
one plus sign in front.
-/

namespace DebugConsole

namespace Numeral

/-- A decimal digit of ASCII is one of ten characters. -/
theorem exists_digitChar {character : Char} (ascii : character.isDigit = true) :
    ∃ digit < 10, character = Nat.digitChar digit := by
  obtain ⟨low, high⟩ : 48 ≤ character.toNat ∧ character.toNat ≤ 57 := by
    simpa [Char.isDigit, UInt32.le_iff_toNat_le] using ascii
  refine ⟨character.toNat - 48, by omega, ?_⟩
  rw [← Char.ofNat_toNat character]
  generalize character.toNat = code at low high
  interval_cases code <;> rfl

theorem digit?_eq (character : Char) :
    digit? character = if character.isDigit then some (character.toNat - '0'.toNat) else none :=
  rfl

theorem ofNat_ne_nil (number : Nat) : ofNat number ≠ [] := Nat.toDigits_ne_nil

theorem toList_toString (number : Nat) : (toString number).toList = ofNat number :=
  Nat.toList_repr

theorem ofNat_isDigit {number : Nat} {character : Char} (member : character ∈ ofNat number) :
    character.isDigit = true :=
  Nat.isDigit_of_mem_toDigits (by omega) (by omega) member

/-- Digits can only make a number larger. -/
theorem le_ofDigitChars (digits : List Char) (value : Nat) :
    value ≤ Nat.ofDigitChars 10 digits value := by
  rw [Nat.ofDigitChars_eq_ofDigitChars_zero]
  exact Nat.le_add_right_of_le (Nat.le_mul_of_pos_left value (Nat.pow_pos (by decide)))

/-- Digits are read as the number that they form, if it is not too large. -/
theorem readDigits_eq_ok_iff {largest value number : Nat} {digits : List Char}
    (small : value ≤ largest) :
    readDigits largest value digits = .ok number ↔
      (∀ character ∈ digits, character.isDigit = true) ∧
        Nat.ofDigitChars 10 digits value = number ∧ number ≤ largest := by
  induction digits generalizing value with
  | nil =>
    have same : readDigits largest value [] = .ok number ↔ value = number := by
      simp [readDigits]
    rw [same]
    exact ⟨fun equal => ⟨by simp, equal, equal ▸ small⟩, fun parts => parts.2.1⟩
  | cons character digits inductionHypothesis =>
    have step : Nat.ofDigitChars 10 (character :: digits) value =
        Nat.ofDigitChars 10 digits (value * 10 + (character.toNat - '0'.toNat)) := by
      rw [Nat.ofDigitChars_cons, Nat.mul_comm]
    rw [readDigits, digit?_eq, List.forall_mem_cons, step]
    by_cases ascii : character.isDigit = true
    · simp only [ascii, if_true, true_and]
      split
      · next fits => exact inductionHypothesis fits
      · next exceeds =>
        refine ⟨nofun, fun ⟨_, formed, within⟩ => absurd ?_ exceeds⟩
        exact Nat.le_trans (le_ofDigitChars digits _) (formed ▸ within)
    · simp only [ascii, Bool.false_eq_true, if_false, false_and]
      exact ⟨nofun, nofun⟩

/-- A numeral: at least one digit, possibly with a plus sign in front, and the number that
the digits form. -/
inductive Spells : List Char → Nat → Prop where
  | unsigned {digits : List Char} (some : digits ≠ [])
      (ascii : ∀ character ∈ digits, character.isDigit = true) :
      Spells digits (Nat.ofDigitChars 10 digits 0)
  | signed {digits : List Char} (some : digits ≠ [])
      (ascii : ∀ character ∈ digits, character.isDigit = true) :
      Spells ('+' :: digits) (Nat.ofDigitChars 10 digits 0)

theorem spells_signed_iff {digits : List Char} {number : Nat} :
    Spells ('+' :: digits) number ↔ digits ≠ [] ∧
      (∀ character ∈ digits, character.isDigit = true) ∧ Nat.ofDigitChars 10 digits 0 = number := by
  constructor
  · rintro (⟨-, ascii⟩ | ⟨some, ascii⟩)
    · exact absurd (ascii '+' List.mem_cons_self) (by decide)
    · exact ⟨some, ascii, rfl⟩
  · rintro ⟨some, ascii, rfl⟩
    exact .signed some ascii

theorem spells_unsigned_iff {text : List Char} {number : Nat}
    (unsigned : ∀ digits, text ≠ '+' :: digits) :
    Spells text number ↔ text ≠ [] ∧
      (∀ character ∈ text, character.isDigit = true) ∧ Nat.ofDigitChars 10 text 0 = number := by
  constructor
  · rintro (⟨some, ascii⟩ | ⟨-, -⟩)
    · exact ⟨some, ascii, rfl⟩
    · exact absurd rfl (unsigned _)
  · rintro ⟨some, ascii, rfl⟩
    exact .unsigned some ascii

/-- Exactly the numerals of numbers that are not too large are read. -/
theorem read_eq_ok_iff {largest number : Nat} {text : List Char} :
    read largest text = .ok number ↔ Spells text number ∧ number ≤ largest := by
  unfold read
  split
  · simp [spells_unsigned_iff]
  · simp [spells_signed_iff]
  · next digits alone =>
    have some : digits ≠ [] := alone
    rw [readDigits_eq_ok_iff (Nat.zero_le _), spells_signed_iff, and_iff_right some, and_assoc]
  · next digits some alone unsigned =>
    rw [readDigits_eq_ok_iff (Nat.zero_le _), spells_unsigned_iff unsigned, and_iff_right some,
      and_assoc]

/-- A number written in decimal is a numeral of it. -/
theorem spells_ofNat (number : Nat) : Spells (ofNat number) number := by
  have formed : Nat.ofDigitChars 10 (ofNat number) 0 = number := Nat.ofDigitChars_ten_toDigits
  have spells : Spells (ofNat number) (Nat.ofDigitChars 10 (ofNat number) 0) :=
    .unsigned (ofNat_ne_nil number) fun _ => ofNat_isDigit
  rwa [formed] at spells

end Numeral

namespace Text

theorem isDigit_of_ascii {character : Char} (ascii : character.isDigit = true) :
    isDigit character = true := by
  obtain ⟨digit, small, rfl⟩ := Numeral.exists_digitChar ascii
  interval_cases digit <;> decide

theorem isBlank_of_ascii {character : Char} (ascii : character.isDigit = true) :
    isBlank character = false := by
  obtain ⟨digit, small, rfl⟩ := Numeral.exists_digitChar ascii
  interval_cases digit <;> rfl

/-- What is left of a text without the white space around it. -/
structure Bares (text core : List Char) : Prop where
  around : ∃ front back, text = front ++ (core ++ back) ∧
    (∀ character ∈ front, isBlank character = true) ∧
    ∀ character ∈ back, isBlank character = true
  first : ∀ character ∈ core.head?, isBlank character = false
  last : ∀ character ∈ core.getLast?, isBlank character = false

theorem dropWhile_blanks {front rest : List Char}
    (blank : ∀ character ∈ front, isBlank character = true)
    (first : ∀ character ∈ rest.head?, isBlank character = false) :
    (front ++ rest).dropWhile isBlank = rest := by
  rw [List.dropWhile_append_of_pos blank]
  cases rest with
  | nil => rfl
  | cons character rest =>
    rw [List.dropWhile_cons_of_neg (by simpa using first character rfl)]

theorem Bares.trim_eq {text core : List Char} (bares : Bares text core) : trim text = core := by
  obtain ⟨⟨front, back, rfl, ahead, behind⟩, first, last⟩ := bares
  cases core with
  | nil =>
    have started : trimStart (front ++ ([] ++ back)) = [] := by
      rw [trimStart, List.dropWhile_eq_nil_iff]
      intro character member
      rcases List.mem_append.mp member with inside | inside
      · exact ahead character inside
      · exact behind character inside
    rw [trim, started]
    rfl
  | cons character more =>
    have started : trimStart (front ++ (character :: more ++ back)) = character :: more ++ back :=
      dropWhile_blanks ahead first
    have ended : (back.reverse ++ (character :: more).reverse).dropWhile isBlank =
        (character :: more).reverse :=
      dropWhile_blanks (fun other member => behind other (List.mem_reverse.mp member))
        (List.head?_reverse ▸ last)
    rw [trim, started, trimEnd, List.reverse_append, ended, List.reverse_reverse]

/-- The white space in front of a text, and a rest that starts with something else. -/
theorem exists_blanks (text : List Char) :
    ∃ front, text = front ++ text.dropWhile isBlank ∧
      (∀ character ∈ front, isBlank character = true) ∧
      ∀ character ∈ (text.dropWhile isBlank).head?, isBlank character = false := by
  refine ⟨text.takeWhile isBlank, List.takeWhile_append_dropWhile.symm,
    fun character => List.mem_takeWhile_imp, fun character first => ?_⟩
  have stops := List.head?_dropWhile_not isBlank text
  rwa [first] at stops

theorem bares_trim (text : List Char) : Bares text (trim text) := by
  obtain ⟨front, started, ahead, first⟩ := exists_blanks text
  obtain ⟨back, ended, behind, last⟩ := exists_blanks (trimStart text).reverse
  have parts : trimStart text = trim text ++ back.reverse := by
    have reversed := congrArg List.reverse ended
    rwa [List.reverse_append, List.reverse_reverse] at reversed
  refine ⟨⟨front, back.reverse, ?_, ahead, ?_⟩, fun character head => ?_, fun character tail => ?_⟩
  · rw [← parts]
    exact started
  · exact fun character member => behind character (List.mem_reverse.mp member)
  · apply first
    change (trimStart text).head? = some character
    rw [parts, List.head?_append, head]
    rfl
  · apply last
    rwa [trim, trimEnd, List.getLast?_reverse] at tail

/-- Something is left of a text that is not all white space. -/
theorem trim_ne_nil_iff {text : List Char} :
    trim text ≠ [] ↔ ∃ character ∈ text, isBlank character = false := by
  obtain ⟨⟨front, back, shape, ahead, behind⟩, first, -⟩ := bares_trim text
  generalize trim text = core at shape first ⊢
  subst shape
  constructor
  · intro some
    obtain ⟨character, more, rfl⟩ := List.exists_cons_of_ne_nil some
    exact ⟨character, by simp, first character rfl⟩
  · rintro ⟨character, member, unblank⟩ rfl
    have blank : isBlank character = true := by
      rcases List.mem_append.mp member with inside | inside
      · exact ahead character inside
      · exact behind character inside
    exact absurd blank (by simp [unblank])

/-- Trimming takes all white space around a text away, and nothing else. -/
theorem trim_eq_iff {text core : List Char} : trim text = core ↔ Bares text core :=
  ⟨fun same => same ▸ bares_trim text, Bares.trim_eq⟩

theorem trim_eq_self {text : List Char} (unblank : ∀ character ∈ text, isBlank character = false) :
    trim text = text :=
  trim_eq_iff.mpr ⟨⟨[], [], (List.append_nil text).symm, nofun, nofun⟩,
    fun character first => unblank character (List.mem_of_mem_head? first),
    fun character last => unblank character (List.mem_of_mem_getLast? last)⟩

end Text

namespace Location

/-- The texts of a file name and of a line number tell a location. -/
structure Tells (policy : Policy) (file line : List Char) (location : Location) : Prop where
  /-- The file name is not all white space. -/
  named : ∃ character ∈ file, Text.isBlank character = false
  file : ∃ name, Text.Bares file name ∧ location.file = policy.path ⟨String.ofList name⟩
  line : ∃ numeral, Text.Bares line numeral ∧ Numeral.Spells numeral location.line
  positive : 1 ≤ location.line
  within : location.line ≤ 4294967295

theorem tells_iff {policy : Policy} {file line : List Char} {location : Location} :
    Tells policy file line location ↔
      Text.trim file ≠ [] ∧ location.file = policy.path ⟨String.ofList (Text.trim file)⟩ ∧
        Numeral.read Numeral.largest32 (Text.trim line) = .ok location.line ∧
        1 ≤ location.line := by
  rw [Text.trim_ne_nil_iff, Numeral.read_eq_ok_iff]
  constructor
  · rintro ⟨named, ⟨name, bares, shown⟩, ⟨numeral, bares', spells⟩, positive, within⟩
    obtain rfl := bares.trim_eq
    obtain rfl := bares'.trim_eq
    exact ⟨named, shown, ⟨spells, within⟩, positive⟩
  · rintro ⟨named, shown, ⟨spells, within⟩, positive⟩
    exact ⟨named, ⟨_, Text.bares_trim file, shown⟩, ⟨_, Text.bares_trim line, spells⟩, positive,
      within⟩

/-- Exactly the texts that tell a location are one. -/
theorem resolve_eq_ok_iff {policy : Policy} {file line : List Char} {location : Location} :
    resolve policy file line = .ok location ↔ Tells policy file line location := by
  obtain ⟨path, number⟩ := location
  rw [tells_iff]
  unfold resolve
  dsimp only
  have empty : (String.ofList (Text.trim file)).isEmpty = true ↔ Text.trim file = [] := by
    simp [String.isEmpty_iff]
  by_cases none : Text.trim file = []
  · rw [if_pos (empty.mpr none)]
    exact ⟨nofun, fun tells => absurd none tells.1⟩
  · rw [if_neg (mt empty.mp none), and_iff_right none]
    split
    · next reads =>
      refine ⟨nofun, fun ⟨_, same, positive⟩ => ?_⟩
      obtain rfl : 0 = number := by simpa [reads] using same
      exact absurd positive (by decide)
    · next read nonzero reads =>
      simp only [reads, Except.ok.injEq, mk.injEq]
      exact ⟨fun ⟨shown, same⟩ => ⟨shown.symm, same, same ▸ Nat.pos_of_ne_zero nonzero⟩,
        fun ⟨shown, same, _⟩ => ⟨shown.symm, same⟩⟩
    · next fault reads =>
      exact ⟨nofun, fun ⟨_, same, _⟩ => absurd (reads.symm.trans same) nofun⟩

/-- A line that is read lies within 32 bits, and is not zero. -/
theorem resolve_line {policy : Policy} {file line : List Char} {location : Location}
    (resolves : resolve policy file line = .ok location) :
    1 ≤ location.line ∧ location.line ≤ 4294967295 :=
  have tells := resolve_eq_ok_iff.mp resolves
  ⟨tells.positive, tells.within⟩

/-- A file name and a line in decimal are a location. -/
theorem resolve_ofNat (policy : Policy) {file : List Char} {line : Nat} (some : file ≠ [])
    (trimmed : Text.trim file = file) (positive : 1 ≤ line) (within : line ≤ 4294967295) :
    resolve policy file (Numeral.ofNat line) = .ok ⟨policy.path ⟨String.ofList file⟩, line⟩ := by
  have unblank : Text.trim (Numeral.ofNat line) = Numeral.ofNat line :=
    Text.trim_eq_self fun character member =>
      Text.isBlank_of_ascii (Numeral.ofNat_isDigit member)
  exact resolve_eq_ok_iff.mpr {
    named := Text.trim_ne_nil_iff.mp (trimmed.symm ▸ some)
    file := ⟨file, Text.trim_eq_iff.mp trimmed, rfl⟩
    line := ⟨Numeral.ofNat line, Text.trim_eq_iff.mp unblank, Numeral.spells_ofNat line⟩
    positive := positive
    within := within }

end Location

end DebugConsole
