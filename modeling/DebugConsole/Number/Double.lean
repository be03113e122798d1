/-!
# Double precision numbers

A finite double is a sign and a significand times a power of two. Arithmetic is
exact on ratios of whole numbers and rounded once, to the nearest double, an even
significand being preferred where two are equally near.
-/

namespace DebugConsole

/-- A finite double: the significand, below 2^53, times 2 to the exponent. -/
structure Double where
  negative : Bool
  significand : Nat
  exponent : Int
  deriving DecidableEq, Repr, Inhabited

namespace Double

/-- The least exponent. -/
def leastExponent : Int := -1074

/-- The greatest exponent. -/
def greatestExponent : Int := 971

/-- The number of bits of a significand. -/
def precision : Nat := 53

/-- Zero with a sign. -/
def zero (negative : Bool) : Double := ⟨negative, 0, leastExponent⟩

/-- A quotient rounded to the nearest whole number, a half to the even one. -/
def roundQuotient (numerator denominator : Nat) : Nat :=
  let quotient := numerator / denominator
  let twice := 2 * (numerator % denominator)
  if denominator < twice || (twice = denominator && quotient % 2 = 1) then quotient + 1
  else quotient

/-- A ratio divided by a power of two. -/
def scale (numerator denominator : Nat) (exponent : Int) : Nat × Nat :=
  if exponent < 0 then (numerator * Nat.pow 2 exponent.natAbs, denominator)
  else (numerator, denominator * Nat.pow 2 exponent.natAbs)

/-- The double nearest to a ratio; nothing if the ratio is too large. -/
def ofRatio? (negative : Bool) (numerator denominator : Nat) : Option Double :=
  if numerator = 0 then some (zero negative)
  else
    let guess : Int := (numerator.log2 : Int) - denominator.log2 - (precision - 1 : Nat)
    let (low, high) := scale numerator denominator guess
    let fitting := if low / high < Nat.pow 2 (precision - 1) then guess - 1 else guess
    let exponent := max fitting leastExponent
    let (scaled, unit) := scale numerator denominator exponent
    let rounded := roundQuotient scaled unit
    let (significand, exponent) :=
      if rounded = Nat.pow 2 precision then (Nat.pow 2 (precision - 1), exponent + 1)
      else (rounded, exponent)
    if greatestExponent < exponent then none else some ⟨negative, significand, exponent⟩

/-- The magnitude of a double as a ratio. -/
def ratio (value : Double) : Nat × Nat :=
  if value.exponent < 0 then (value.significand, Nat.pow 2 value.exponent.natAbs)
  else (value.significand * Nat.pow 2 value.exponent.natAbs, 1)

/-- The double nearest to a whole number. -/
def ofNat? (negative : Bool) (value : Nat) : Option Double := ofRatio? negative value 1

/-- The product of two doubles; nothing if it is too large. -/
def mul? (left right : Double) : Option Double :=
  let (leftOver, leftUnder) := left.ratio
  let (rightOver, rightUnder) := right.ratio
  ofRatio? (left.negative != right.negative) (leftOver * rightOver) (leftUnder * rightUnder)

/-- The quotient of two doubles, the second of which is not zero. -/
def div? (left right : Double) : Option Double :=
  let (leftOver, leftUnder) := left.ratio
  let (rightOver, rightUnder) := right.ratio
  ofRatio? (left.negative != right.negative) (leftOver * rightUnder) (leftUnder * rightOver)

/-- The double nearest to a power of ten. -/
def powerOfTen? (exponent : Nat) : Option Double := ofNat? false (Nat.pow 10 exponent)

end Double

end DebugConsole
