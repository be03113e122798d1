import DebugConsole.Number.Double

/-!
# Shortest decimals

A double is written with the fewest digits that read back as the same double, and
among those with the digits nearest to it. For each number of digits the two
neighbours of the double on that decimal grid are tried; if any point of the grid
reads back, one of these two does.
-/

namespace DebugConsole.Double

/-- A decimal number: digits times a power of ten. -/
structure Decimal where
  digits : Nat
  exponent : Int
  deriving DecidableEq, Repr

/-- A decimal as a ratio. -/
def Decimal.ratio (decimal : Decimal) : Nat × Nat :=
  if decimal.exponent < 0 then (decimal.digits, Nat.pow 10 decimal.exponent.natAbs)
  else (decimal.digits * Nat.pow 10 decimal.exponent.natAbs, 1)

/-- Whether a decimal reads back as a positive double. -/
def Decimal.readsAs (decimal : Decimal) (value : Double) : Bool :=
  let (numerator, denominator) := decimal.ratio
  ofRatio? false numerator denominator == some ⟨false, value.significand, value.exponent⟩

/-- The exponent of the leading decimal digit of a ratio below one, at most `fuel`
places further down than `exponent`. -/
def leadingBelow (numerator denominator : Nat) : (fuel : Nat) → (exponent : Int) → Int
  | 0, exponent => exponent
  | fuel + 1, exponent =>
    if denominator ≤ numerator then exponent
    else leadingBelow (numerator * 10) denominator fuel (exponent - 1)

/-- The exponent of the leading decimal digit of a ratio. -/
def leading (numerator denominator : Nat) : Int :=
  if denominator ≤ numerator then (Nat.toDigits 10 (numerator / denominator)).length - 1
  else leadingBelow numerator denominator 400 0

/-- How far a decimal is from a ratio, over the product of their denominators. -/
def Decimal.distance (decimal : Decimal) (numerator denominator : Nat) : Nat :=
  let (decimalNumerator, decimalDenominator) := decimal.ratio
  let left := decimalNumerator * denominator
  let right := numerator * decimalDenominator
  (left - right) + (right - left)

/-- The decimal with a given number of digits that reads back as a double, if
there is one. -/
def withDigits? (value : Double) (count : Nat) : Option Decimal :=
  let (numerator, denominator) := value.ratio
  let exponent := leading numerator denominator - count + 1
  let quotient :=
    if exponent < 0 then numerator * Nat.pow 10 exponent.natAbs / denominator
    else numerator / (denominator * Nat.pow 10 exponent.natAbs)
  let below : Decimal := ⟨quotient, exponent⟩
  let above : Decimal := ⟨quotient + 1, exponent⟩
  match below.readsAs value, above.readsAs value with
  | false, false => none
  | true, false => some below
  | false, true => some above
  | true, true =>
    let belowDistance := below.distance numerator denominator
    let aboveDistance := above.distance numerator denominator
    if belowDistance < aboveDistance || (belowDistance = aboveDistance && quotient % 2 = 0) then
      some below
    else some above

/-- Takes zeros off the end of a decimal, at most `fuel` of them. -/
def Decimal.strip : (fuel : Nat) → Decimal → Decimal
  | 0, decimal => decimal
  | fuel + 1, decimal =>
    if decimal.digits % 10 = 0 then strip fuel ⟨decimal.digits / 10, decimal.exponent + 1⟩
    else decimal

/-- The shortest decimal of the magnitude of a double other than zero. -/
def shortest (value : Double) : Decimal :=
  match (List.range 17).findSome? fun count => value.withDigits? (count + 1) with
  | some decimal => decimal.strip 20
  | none => ⟨0, 0⟩

/-- The text of a double. Where the decimal point falls at most sixteen places
behind the first digit or at most four in front of it, the number is written out
with at least one digit on each side of the point; other numbers have an exponent
with its sign. -/
def text (value : Double) : String :=
  let sign := if value.negative then "-" else ""
  if value.significand = 0 then sign ++ "0.0"
  else
    let decimal := value.shortest
    let digits := Nat.toDigits 10 decimal.digits
    let point : Int := digits.length + decimal.exponent
    let zeros (count : Int) : List Char := List.replicate count.toNat '0'
    let body : List Char :=
      if 0 ≤ decimal.exponent && point ≤ 16 then digits ++ zeros decimal.exponent ++ ['.', '0']
      else if 0 < point && point ≤ 16 then
        digits.take point.toNat ++ ['.'] ++ digits.drop point.toNat
      else if -5 < point && point ≤ 0 then ['0', '.'] ++ zeros (-point) ++ digits
      else
        let mantissa :=
          match digits with
          | [digit] => [digit]
          | first :: later => first :: '.' :: later
          | [] => []
        let exponent := point - 1
        mantissa ++ ['e', if exponent < 0 then '-' else '+'] ++
          Nat.toDigits 10 exponent.natAbs
    sign ++ String.ofList body

end DebugConsole.Double
