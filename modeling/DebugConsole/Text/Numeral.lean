/-!
# Decimal numerals

Whole numbers as text. `Numeral.read` accepts an optional single plus sign and
then ASCII digits only, up to a largest value; it tells apart the three ways in
which a text fails to be such a numeral.
-/

namespace DebugConsole.Numeral

/-- Why a text is not a numeral of the wanted size. -/
inductive Fault where
  | noDigits
  | notADigit
  | tooLarge
  deriving DecidableEq, Repr

/-- The wording of a fault. -/
def Fault.message : Fault → String
  | .noDigits => "cannot parse integer from empty string"
  | .notADigit => "invalid digit found in string"
  | .tooLarge => "number too large to fit in target type"

/-- The value of an ASCII digit. -/
def digit? (character : Char) : Option Nat :=
  if '0' ≤ character && character ≤ '9' then some (character.toNat - '0'.toNat) else none

/-- Reads digits from the most significant one on. The first fault from the left
wins, so a number that is too large already is not searched for other faults. -/
def readDigits (largest : Nat) (value : Nat) : List Char → Except Fault Nat
  | [] => .ok value
  | character :: rest =>
    match digit? character with
    | none => .error .notADigit
    | some digit =>
      if value * 10 + digit ≤ largest then readDigits largest (value * 10 + digit) rest
      else .error .tooLarge

/-- Reads a numeral that is at most `largest`. -/
def read (largest : Nat) : List Char → Except Fault Nat
  | [] => .error .noDigits
  | ['+'] => .error .notADigit
  | '+' :: digits => readDigits largest 0 digits
  | digits => readDigits largest 0 digits

/-- The largest value of a line number. -/
def largest32 : Nat := 4294967295

/-- The largest size or duration. -/
def largest64 : Nat := 18446744073709551615

/-- The decimal digits of a number. -/
def ofNat (number : Nat) : List Char := Nat.toDigits 10 number

/-- The text of a number, filled up with blanks on the left to a width. -/
def padLeft (width : Nat) (text : String) : String :=
  String.ofList (List.replicate (width - text.length) ' ') ++ text

end DebugConsole.Numeral
