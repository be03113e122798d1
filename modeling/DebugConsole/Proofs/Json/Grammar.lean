import DebugConsole.Json.Reader

/-!
# The texts of values

Which texts spell which JSON values, said without the reader: `Json.Spells depth text value`
holds where the text is one value of the grammar, with nothing in front of it or behind it,
and no more than `depth` of its containers are open at once. The members of an object stand
in the order of the text, also several of one name.

A number of the grammar stands for the whole number of its digits where it has neither
fraction nor exponent and fits 64 bits, signed or not; a zero with a sign does not fit. For
what is left, `Json.Literal.double?` says which double it is.
-/

namespace DebugConsole.Json

/-- White space, possibly none. -/
def Spaces (text : List Char) : Prop := ∀ character ∈ text, isSpace character = true

theorem spaces_nil : Spaces [] := nofun

/-! ## Strings -/

/-- What a letter behind a backslash stands for. -/
def shortEscapes : List (Char × Char) :=
  [('"', '"'), ('\\', '\\'), ('/', '/'), ('b', '\x08'), ('f', '\x0c'), ('n', '\n'), ('r', '\r'),
    ('t', '\t')]

/-- Four hexadecimal digits and their number. -/
inductive SpellsUnit : List Char → Nat → Prop where
  | digits {first second third fourth : Char} {thousands hundreds tens ones : Nat}
      (highest : hexValue? first = some thousands) (high : hexValue? second = some hundreds)
      (low : hexValue? third = some tens) (lowest : hexValue? fourth = some ones) :
      SpellsUnit [first, second, third, fourth]
        (((thousands * 16 + hundreds) * 16 + tens) * 16 + ones)

/-- The ways to write one character of a string. -/
inductive SpellsChar : List Char → Char → Prop where
  | plain {character : Char} (unquoted : character ≠ '"') (unescaped : character ≠ '\\')
      (printed : 0x20 ≤ character.toNat) : SpellsChar [character] character
  | short {letter character : Char} (listed : (letter, character) ∈ shortEscapes) :
      SpellsChar ['\\', letter] character
  | code {digits : List Char} {code : Nat} (spelled : SpellsUnit digits code)
      (entire : code < 0xD800 ∨ 0xDFFF < code) :
      SpellsChar ('\\' :: 'u' :: digits) (Char.ofNat code)
  /-- A character outside the basic plane, in two halves. -/
  | halves {first second : List Char} {upper lower : Nat} (high : SpellsUnit first upper)
      (isUpper : 0xD800 ≤ upper ∧ upper ≤ 0xDBFF) (low : SpellsUnit second lower)
      (isLower : 0xDC00 ≤ lower ∧ lower ≤ 0xDFFF) :
      SpellsChar ('\\' :: 'u' :: (first ++ '\\' :: 'u' :: second))
        (Char.ofNat (0x10000 + (upper - 0xD800) * 1024 + (lower - 0xDC00)))

/-- The characters of a string, from its opening mark to its closing one. -/
inductive SpellsChars : List Char → List Char → Prop where
  | nil : SpellsChars [] []
  | cons {front text characters : List Char} {character : Char}
      (here : SpellsChar front character) (later : SpellsChars text characters) :
      SpellsChars (front ++ text) (character :: characters)

/-! ## Numbers -/

/-- Decimal digits, one at least. -/
structure Digits (text : List Char) : Prop where
  nonempty : text ≠ []
  ascii : ∀ character ∈ text, character.isDigit = true

/-- The number that decimal digits stand for. -/
def digitsNumber (digits : List Char) : Nat := Nat.ofDigitChars 10 digits 0

/-- A number in its parts: the digits in front of its point, those behind it, and the power
of ten that follows. -/
structure Literal where
  negative : Bool
  whole : List Char
  fraction : List Char
  exponent : Option Int

/-- The digits behind a point, with it, or nothing. -/
inductive SpellsFraction : List Char → List Char → Prop where
  | none : SpellsFraction [] []
  | digits {digits : List Char} (written : Digits digits) : SpellsFraction ('.' :: digits) digits

/-- A power of ten, or nothing. -/
inductive SpellsExponent : List Char → Option Int → Prop where
  | none : SpellsExponent [] none
  | up {letter : Char} {sign digits : List Char} (named : letter = 'e' ∨ letter = 'E')
      (signed : sign = [] ∨ sign = ['+']) (written : Digits digits) :
      SpellsExponent (letter :: (sign ++ digits)) (some (digitsNumber digits))
  | down {letter : Char} {digits : List Char} (named : letter = 'e' ∨ letter = 'E')
      (written : Digits digits) :
      SpellsExponent (letter :: '-' :: digits) (some (-digitsNumber digits))

/-- A number behind its sign. No zero stands in front of other digits. -/
inductive SpellsUnsigned : List Char → Literal → Prop where
  | parts {negative : Bool} {whole fraction fractionText exponentText : List Char}
      {exponent : Option Int} (written : Digits whole)
      (unpadded : whole.head? = some '0' → whole = ['0'])
      (hasFraction : SpellsFraction fractionText fraction)
      (hasExponent : SpellsExponent exponentText exponent) :
      SpellsUnsigned (whole ++ (fractionText ++ exponentText))
        ⟨negative, whole, fraction, exponent⟩

namespace Literal

/-- The whole number of 64 bits that a number is, if it is one and no negative zero. -/
def whole? (literal : Literal) : Option Int :=
  let value := digitsNumber literal.whole
  if literal.fraction ≠ [] ∨ literal.exponent ≠ none then none
  else if literal.negative then
    if 0 < value ∧ value ≤ leastMagnitude then some (-value) else none
  else if value ≤ largestWhole then some value
  else none

/-- The double for digits, a power of ten from their places, and one that is written. -/
def scaled? (negative : Bool) (digits : Nat) (shift : Int) : Option Int → Option Double
  | none => doubleOf? negative digits shift
  | some exponent =>
    if exponent.natAbs ≤ largestExponent then doubleOf? negative digits (shift + exponent)
    else if digits = 0 ∨ exponent < 0 then some (Double.zero negative)
    else none

/-- The double that a number is otherwise: of its digits, as many are taken as fit 64 bits,
and those in front of the point that do not fit count as a power of ten. -/
def double? (literal : Literal) : Option Double :=
  let (digits, _, late) := takeDigits 0 0 literal.whole
  if literal.fraction = [] ∧ literal.exponent = none ∧ late = [] then
    Double.ofNat? literal.negative digits
  else
    let (digits, count, _) := takeDigits digits 0 literal.fraction
    scaled? literal.negative digits (late.length - count) literal.exponent

/-- The number that is kept of a number. -/
def number? (literal : Literal) : Option Number :=
  match literal.whole? with
  | some value => some (.whole value)
  | none => literal.double?.map .double

end Literal

/-! ## Values -/

/-- Values that hold no others. -/
inductive SpellsScalar : List Char → Json → Prop where
  | null : SpellsScalar ['n', 'u', 'l', 'l'] .null
  | yes : SpellsScalar ['t', 'r', 'u', 'e'] (.bool true)
  | no : SpellsScalar ['f', 'a', 'l', 's', 'e'] (.bool false)
  | string {text characters : List Char} (spelled : SpellsChars text characters) :
      SpellsScalar ('"' :: (text ++ ['"'])) (.string (String.ofList characters))
  | positive {text : List Char} {literal : Literal} {number : Number}
      (spelled : SpellsUnsigned text literal) (unsigned : literal.negative = false)
      (kept : literal.number? = some number) : SpellsScalar text (.number number)
  | negative {text : List Char} {literal : Literal} {number : Number}
      (spelled : SpellsUnsigned text literal) (signed : literal.negative = true)
      (kept : literal.number? = some number) : SpellsScalar ('-' :: text) (.number number)

/-- Items with commas between them, one item at least. -/
inductive Separated {Item : Type} (spelled : List Char → Item → Prop) :
    List Char → List Item → Prop where
  | last {text : List Char} {item : Item} (here : spelled text item) :
      Separated spelled text [item]
  | more {text others : List Char} {item : Item} {items : List Item} (here : spelled text item)
      (later : Separated spelled others items) :
      Separated spelled (text ++ ',' :: others) (item :: items)

/-- A value and white space around it. -/
inductive Padded (spelled : List Char → Json → Prop) : List Char → Json → Prop where
  | around {before text behind : List Char} {value : Json} (front : Spaces before)
      (here : spelled text value) (back : Spaces behind) :
      Padded spelled (before ++ (text ++ behind)) value

/-- A name and a value, with a colon between them. -/
inductive SpellsMember (spelled : List Char → Json → Prop) :
    List Char → String × Json → Prop where
  | named {before name characters gap text : List Char} {value : Json} (front : Spaces before)
      (quoted : SpellsChars name characters) (back : Spaces gap)
      (here : Padded spelled text value) :
      SpellsMember spelled (before ++ '"' :: (name ++ '"' :: (gap ++ ':' :: text)))
        (String.ofList characters, value)

/-- Values that hold others, which are spelled in a given way. -/
inductive SpellsContainer (spelled : List Char → Json → Prop) : List Char → Json → Prop where
  | noElements {gap : List Char} (blank : Spaces gap) :
      SpellsContainer spelled ('[' :: (gap ++ [']'])) (.array [])
  | elements {text : List Char} {elements : List Json}
      (each : Separated (Padded spelled) text elements) :
      SpellsContainer spelled ('[' :: (text ++ [']'])) (.array elements)
  | noMembers {gap : List Char} (blank : Spaces gap) :
      SpellsContainer spelled ('{' :: (gap ++ ['}'])) (.object [])
  | members {text : List Char} {members : List (String × Json)}
      (each : Separated (SpellsMember spelled) text members) :
      SpellsContainer spelled ('{' :: (text ++ ['}'])) (.object members)

/-- The texts of values whose containers are nested so deep at most. -/
def Spells : (depth : Nat) → List Char → Json → Prop
  | 0, text, value => SpellsScalar text value
  | depth + 1, text, value => SpellsScalar text value ∨ SpellsContainer (Spells depth) text value

end DebugConsole.Json
