import DebugConsole.Proofs.Json.Grammar
import Mathlib.Data.List.Basic

/-!
# Strings are read exactly

A string is read if and only if the grammar has it, and what is read is what the grammar says
(`Json.readString_eq_some_iff`).
-/

namespace DebugConsole.Json

theorem readUnit_eq_some_iff {text rest : List Char} {unit : Nat} :
    readUnit text = some (unit, rest) ↔
      ∃ digits, text = digits ++ rest ∧ SpellsUnit digits unit := by
  constructor
  · intro reads
    unfold readUnit at reads
    split at reads
    · next first second third fourth behind =>
      simp only [Option.bind_eq_bind, Option.bind_eq_some_iff, Option.some.injEq,
        Prod.mk.injEq] at reads
      obtain ⟨thousands, highest, hundreds, high, tens, low, ones, lowest, number, rfl⟩ := reads
      obtain rfl : unit = ((thousands * 16 + hundreds) * 16 + tens) * 16 + ones := by omega
      exact ⟨[first, second, third, fourth], rfl, .digits highest high low lowest⟩
    · cases reads
  · rintro ⟨_, rfl, spelled⟩
    cases spelled with
    | @digits first second third fourth thousands hundreds tens ones highest high low lowest =>
      have same : (thousands * 16 + hundreds) * 256 + (tens * 16 + ones) =
          ((thousands * 16 + hundreds) * 16 + tens) * 16 + ones := by omega
      simp [readUnit, highest, high, low, lowest, same]

theorem behind?_eq_some_iff {word text rest : List Char} :
    behind? word text = some rest ↔ text = word ++ rest := by
  unfold behind?
  rw [Option.ite_none_right_eq_some, List.isPrefixOf_iff_prefix]
  constructor
  · rintro ⟨⟨others, rfl⟩, dropped⟩
    rw [List.drop_left, Option.some.injEq] at dropped
    rw [dropped]
  · rintro rfl
    exact ⟨List.prefix_append _ _, by rw [List.drop_left]⟩

/-- The code behind an escape is read if it is that of a character, in one piece or in two
halves. -/
theorem readCode_eq_some_iff {text rest : List Char} {character : Char} :
    readCode text = some (character, rest) ↔
      ∃ written, text = written ++ rest ∧ SpellsChar ('\\' :: 'u' :: written) character := by
  constructor
  · intro reads
    obtain ⟨⟨unit, behind⟩, first, decided⟩ := Option.bind_eq_some_iff.mp reads
    obtain ⟨digits, rfl, spelled⟩ := readUnit_eq_some_iff.mp first
    dsimp only at decided
    split at decided
    · cases decided
    · next notLower =>
      split at decided
      · next upper =>
        obtain ⟨⟨lower, after⟩, second, paired⟩ := Option.bind_eq_some_iff.mp decided
        obtain ⟨further, opened, read⟩ := Option.bind_eq_some_iff.mp second
        obtain rfl := behind?_eq_some_iff.mp opened
        obtain ⟨lowerDigits, rfl, lowerSpelled⟩ := readUnit_eq_some_iff.mp read
        dsimp only at paired
        split at paired
        · next isLower =>
          obtain ⟨rfl, rfl⟩ := Prod.mk.inj (Option.some.inj paired)
          refine ⟨digits ++ '\\' :: 'u' :: lowerDigits, by simp, ?_⟩
          exact .halves spelled (by simpa using upper) lowerSpelled (by simpa using isLower)
        · cases paired
      · next notUpper =>
        obtain ⟨rfl, rfl⟩ := Prod.mk.inj (Option.some.inj decided)
        simp only [Bool.and_eq_true, decide_eq_true_eq, not_and] at notLower notUpper
        exact ⟨digits, rfl, .code spelled (by omega)⟩
  · rintro ⟨written, rfl, spelled⟩
    generalize escape : '\\' :: 'u' :: written = whole at spelled
    cases spelled with
    | plain _ unescaped _ => simp at escape
    | short listed =>
      obtain ⟨rfl, rfl⟩ : 'u' = _ ∧ written = [] := by simpa using escape
      simp [shortEscapes] at listed
    | @code digits code spelled entire =>
      obtain rfl : written = digits := by simpa using escape
      have read : readUnit (written ++ rest) = some (code, rest) :=
        readUnit_eq_some_iff.mpr ⟨written, rfl, spelled⟩
      have notLower : ¬ (0xDC00 ≤ code ∧ code ≤ 0xDFFF) := by omega
      have notUpper : ¬ (0xD800 ≤ code ∧ code ≤ 0xDBFF) := by omega
      simp [readCode, read, notLower, notUpper]
    | @halves first second upper lower high isUpper low isLower =>
      obtain rfl : written = first ++ '\\' :: 'u' :: second := by simpa using escape
      have readUpper : readUnit (first ++ ('\\' :: 'u' :: (second ++ rest))) =
          some (upper, '\\' :: 'u' :: (second ++ rest)) :=
        readUnit_eq_some_iff.mpr ⟨first, rfl, high⟩
      have readLower : readUnit (second ++ rest) = some (lower, rest) :=
        readUnit_eq_some_iff.mpr ⟨second, rfl, low⟩
      have opened : behind? ['\\', 'u'] ('\\' :: 'u' :: (second ++ rest)) =
          some (second ++ rest) := behind?_eq_some_iff.mpr rfl
      have notLower : ¬ (0xDC00 ≤ upper ∧ upper ≤ 0xDFFF) := by omega
      simp [readCode, readUpper, opened, readLower, notLower, isUpper, isLower]

theorem readEscape_eq_some_iff {text rest : List Char} {character : Char} :
    readEscape text = some (character, rest) ↔
      ∃ written, text = written ++ rest ∧ SpellsChar ('\\' :: written) character := by
  constructor
  · intro reads
    unfold readEscape at reads
    split at reads
    case h_9 =>
      obtain ⟨written, rfl, spelled⟩ := readCode_eq_some_iff.mp reads
      exact ⟨'u' :: written, rfl, spelled⟩
    case h_10 => cases reads
    all_goals
      obtain ⟨rfl, rfl⟩ := Prod.mk.inj (Option.some.inj reads)
      exact ⟨[_], rfl, .short (by decide)⟩
  · rintro ⟨written, rfl, spelled⟩
    have coded : ∀ code, written = 'u' :: code →
        readEscape (written ++ rest) = some (character, rest) := by
      rintro code rfl
      exact readCode_eq_some_iff.mpr ⟨code, rfl, spelled⟩
    generalize escape : '\\' :: written = whole at spelled
    cases spelled with
    | plain _ unescaped _ =>
      obtain ⟨rfl, -⟩ := List.cons.inj escape
      exact absurd rfl unescaped
    | @short letter character listed =>
      obtain rfl : written = [letter] := by simpa using escape
      simp only [shortEscapes, List.mem_cons, Prod.mk.injEq, List.not_mem_nil, or_false] at listed
      rcases listed with ⟨rfl, rfl⟩ | ⟨rfl, rfl⟩ | ⟨rfl, rfl⟩ | ⟨rfl, rfl⟩ | ⟨rfl, rfl⟩ |
        ⟨rfl, rfl⟩ | ⟨rfl, rfl⟩ | ⟨rfl, rfl⟩ <;> rfl
    | code => exact coded _ (List.cons.inj escape).2
    | halves => exact coded _ (List.cons.inj escape).2

/-! ## Whole strings -/

theorem SpellsChar.length_pos {text : List Char} {character : Char}
    (spelled : SpellsChar text character) : 0 < text.length := by
  cases spelled <;> simp

/-- What is read of a string has a spelling, up to the closing mark. -/
theorem exists_of_readChars {fuel : Nat} {earlier text rest : List Char} {value : String}
    (reads : readChars fuel earlier text = some (value, rest)) :
    ∃ front characters, text = front ++ '"' :: rest ∧ SpellsChars front characters ∧
      value = String.ofList (earlier.reverse ++ characters) := by
  induction fuel generalizing earlier text with
  | zero => cases reads
  | succ fuel inductionHypothesis =>
    cases text with
    | nil => cases reads
    | cons character text =>
      rw [readChars] at reads
      split at reads
      · next closes =>
        obtain ⟨rfl, rfl⟩ := Prod.mk.inj (Option.some.inj reads)
        obtain rfl : character = '"' := by simpa using closes
        exact ⟨[], [], rfl, .nil, by rw [List.append_nil]⟩
      · next unquoted =>
        split at reads
        · next escapes =>
          obtain rfl : character = '\\' := by simpa using escapes
          split at reads
          · cases reads
          · next escaped behind found =>
            obtain ⟨written, rfl, spelled⟩ := readEscape_eq_some_iff.mp found
            obtain ⟨front, characters, rfl, later, rfl⟩ := inductionHypothesis reads
            exact ⟨'\\' :: written ++ front, escaped :: characters, by simp,
              .cons spelled later, by simp⟩
        · next unescaped =>
          split at reads
          · cases reads
          · next printed =>
            obtain ⟨front, characters, rfl, later, rfl⟩ := inductionHypothesis reads
            have plain : SpellsChar [character] character :=
              .plain (by simpa using unquoted) (by simpa using unescaped) (by omega)
            exact ⟨[character] ++ front, character :: characters, rfl, .cons plain later, by simp⟩

/-- A spelled string is read up to its closing mark. -/
theorem SpellsChars.readChars {text characters : List Char} (spelled : SpellsChars text characters)
    {fuel : Nat} (enough : text.length < fuel) (earlier rest : List Char) :
    readChars fuel earlier (text ++ '"' :: rest) =
      some (String.ofList (earlier.reverse ++ characters), rest) := by
  induction spelled generalizing fuel earlier with
  | nil =>
    obtain ⟨fuel, rfl⟩ := Nat.exists_eq_add_of_lt enough
    simp [Json.readChars]
  | @cons front text characters character here later inductionHypothesis =>
    have long := here.length_pos
    rw [List.length_append] at enough
    obtain ⟨fuel, rfl⟩ := Nat.exists_eq_add_of_le' (show 1 ≤ fuel by omega)
    have further : Json.readChars fuel (character :: earlier) (text ++ '"' :: rest) =
        some (String.ofList (earlier.reverse ++ character :: characters), rest) := by
      simpa using inductionHypothesis (show text.length < fuel by omega) (character :: earlier)
    rw [List.append_assoc]
    have escaped : ∀ written, front = '\\' :: written →
        Json.readChars (fuel + 1) earlier (front ++ (text ++ '"' :: rest)) =
          some (String.ofList (earlier.reverse ++ character :: characters), rest) := by
      rintro written rfl
      have read : readEscape (written ++ (text ++ '"' :: rest)) =
          some (character, text ++ '"' :: rest) :=
        readEscape_eq_some_iff.mpr ⟨written, rfl, here⟩
      rw [List.cons_append, Json.readChars, if_neg (by decide), if_pos (by decide), read]
      exact further
    cases here with
    | plain unquoted unescaped printed =>
      rw [List.singleton_append, Json.readChars, if_neg (by simpa using unquoted),
        if_neg (by simpa using unescaped), if_neg (by omega)]
      exact further
    | short => exact escaped _ rfl
    | code => exact escaped _ rfl
    | halves => exact escaped _ rfl

/-- A string is read from behind its opening mark on exactly if the grammar has it, as the
characters that the grammar says. -/
theorem readString_eq_some_iff {text rest : List Char} {value : String} :
    readString text = some (value, rest) ↔
      ∃ front characters, text = front ++ '"' :: rest ∧ SpellsChars front characters ∧
        value = String.ofList characters := by
  constructor
  · exact exists_of_readChars
  · rintro ⟨front, characters, rfl, spelled, rfl⟩
    exact spelled.readChars (by rw [List.length_append]; omega) [] rest

end DebugConsole.Json
