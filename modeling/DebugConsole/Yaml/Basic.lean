import DebugConsole.Number.Double

/-!
# YAML documents

The nodes of a YAML document as they are written, and the values that they stand for.
A scalar keeps its text and whether it is plain, that is, whether its text decides of
which kind it is; a tag in front of a node may decide otherwise. `Yaml.value?` gives
the value of a node, and nothing for nodes that stand for none.
-/

namespace DebugConsole

/-- What is said of the kind of a node in front of it. -/
inductive Yaml.Tag where
  | unsaid
  /-- One of the kinds that every document knows. -/
  | standard (name : String)
  | custom (name : String)
  deriving DecidableEq, Repr, Inhabited

/-- A node of a YAML document. -/
inductive Yaml where
  | scalar (tag : Yaml.Tag) (plain : Bool) (text : String)
  | sequence (tag : Yaml.Tag) (items : List Yaml)
  | mapping (tag : Yaml.Tag) (entries : List (Yaml × Yaml))
  deriving Repr, Inhabited

namespace Yaml

/-- What is left out. -/
def missing : Yaml := .scalar .unsaid true ""

/-- The tag of a node. -/
def tag : Yaml → Tag
  | .scalar tag _ _ | .sequence tag _ | .mapping tag _ => tag

/-- A value that a node stands for. Of numbers with a fraction it does not matter
here which they are. -/
inductive Value where
  | null
  | boolean (value : Bool)
  | integer (value : Int)
  | fraction
  | string (text : String)
  | sequence (items : List Value)
  | mapping (entries : List (Value × Value))
  deriving Repr, Inhabited

/-! ## Plain texts -/

/-- Whether a text is one of the words for nothing. -/
def isNullWord (text : String) : Bool := ["", "~", "null", "Null", "NULL"].contains text

/-- The truth value that a text is a word for. -/
def boolean? (text : String) : Option Bool :=
  if ["true", "True", "TRUE"].contains text then some true
  else if ["false", "False", "FALSE"].contains text then some false
  else none

/-- The value of a digit in bases up to sixteen. -/
def digit? (base : Nat) (character : Char) : Option Nat :=
  let value :=
    if character.isDigit then character.toNat - '0'.toNat
    else if 'a' ≤ character && character ≤ 'f' then character.toNat - 'a'.toNat + 10
    else if 'A' ≤ character && character ≤ 'F' then character.toNat - 'A'.toNat + 10
    else base
  if value < base then some value else none

/-- The number that at least one digit stands for. -/
def numberIn? (base : Nat) (digits : List Char) : Option Nat :=
  if digits.isEmpty then none
  else digits.foldlM (fun value digit => (digit? base digit).map (value * base + ·)) 0

/-- A sign in front of a text, and the rest: whether the number is negative. -/
def splitSign : List Char → Bool × List Char
  | '+' :: rest => (false, rest)
  | '-' :: rest => (true, rest)
  | rest => (false, rest)

/-- Whether a text consists of digits with a needless zero in front. -/
def isPaddedDigits (text : List Char) : Bool :=
  let digits := (splitSign text).2
  digits.length > 1 && digits.head? == some '0' && digits.all Char.isDigit

/-- A number with its base in front. -/
def magnitude? : List Char → Option Nat
  | '0' :: 'x' :: digits => numberIn? 16 digits
  | '0' :: 'o' :: digits => numberIn? 8 digits
  | '0' :: 'b' :: digits => numberIn? 2 digits
  | digits => if isPaddedDigits digits then none else numberIn? 10 digits

/-- The whole number that a text stands for; those that do not fit in 128 bits are
not read as such. Digits with a needless zero in front are no number. -/
def integer? (text : List Char) : Option Int :=
  let (negative, digits) := splitSign text
  (magnitude? digits).bind fun magnitude =>
    if negative then if magnitude ≤ Nat.pow 2 127 then some (-(magnitude : Int)) else none
    else if magnitude < Nat.pow 2 128 then some magnitude else none

/-- Whether a decimal number, given by its digits and the power of ten that they are
to be multiplied by, is within the range of doubles. -/
def isFinite (digits : List Char) (power : Int) : Bool :=
  let significant := digits.dropWhile (· == '0')
  let size : Int := significant.length + power
  if significant.isEmpty || size < 309 then true
  else if 309 < size then false
  else
    let number := (numberIn? 10 significant).getD 0
    let (numerator, denominator) :=
      if power < 0 then (number, Nat.pow 10 power.natAbs) else (number * Nat.pow 10 power.natAbs, 1)
    (Double.ofRatio? false numerator denominator).isSome

/-- Whether a text is written like a number with a fraction or an exponent, or like
one of the words for what is no finite number. -/
def isFraction (text : List Char) : Bool :=
  let (_, body) := splitSign text
  if [".inf", ".Inf", ".INF"].contains (String.ofList body) then true
  else if [".nan", ".NaN", ".NAN"].contains (String.ofList text) then true
  else
    let whole := body.takeWhile Char.isDigit
    let (fraction, rest) :=
      match body.drop whole.length with
      | '.' :: rest => (rest.takeWhile Char.isDigit, rest.dropWhile Char.isDigit)
      | rest => ([], rest)
    let digits := whole ++ fraction
    match rest with
    | [] => !digits.isEmpty && isFinite digits (-(fraction.length : Int))
    | letter :: exponent =>
      let (negative, exponent) := splitSign exponent
      match numberIn? 10 exponent with
      | none => false
      | some power =>
        let power : Int := if negative then -(power : Int) else power
        !digits.isEmpty && (letter == 'e' || letter == 'E') &&
          isFinite digits (power - fraction.length)

/-- The value of a plain text. -/
def plainValue (text : String) : Value :=
  if isNullWord text then .null
  else
    match boolean? text, integer? text.toList with
    | some value, _ => .boolean value
    | none, some value => .integer value
    | none, none =>
      if !isPaddedDigits text.toList && isFraction text.toList then .fraction else .string text

/-! ## Nodes -/

/-- The value of a scalar. A tag for a kind must fit the text. -/
def scalarValue? (tag : Tag) (plain : Bool) (text : String) : Option Value :=
  match tag with
  | .unsaid => some (if plain then plainValue text else .string text)
  | .standard "bool" => (boolean? text).map .boolean
  | .standard "int" => (integer? text.toList).map .integer
  | .standard "float" => if isFraction text.toList then some .fraction else none
  | .standard "null" => if isNullWord text then some .null else none
  | .standard _ => some (.string text)
  | .custom _ => none

/-- Whether a value fits in 64 bits if it is a whole number. -/
def fits : Value → Bool
  | .integer value => -(Nat.pow 2 63 : Int) ≤ value && value < (Nat.pow 2 64 : Int)
  | _ => true

/-- The value of a node in which collections are nested at most `depth` deep. Custom
tags and numbers that do not fit have none. -/
def value? : (depth : Nat) → Yaml → Option Value
  | _, .scalar tag plain text => (scalarValue? tag plain text).filter fits
  | _, .sequence (.custom _) _ | _, .mapping (.custom _) _ => none
  | 0, _ => none
  | depth + 1, .sequence _ items => (items.mapM (value? depth)).map .sequence
  | depth + 1, .mapping _ entries =>
    (entries.mapM fun ((key, value) : Yaml × Yaml) => do
      return (← value? depth key, ← value? depth value)).map .mapping

end Yaml

end DebugConsole
