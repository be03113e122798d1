import DebugConsole.Json.Basic

/-!
# Reading JSON

`Json.readFront` reads the value at the front of a text and returns it with the
text behind it. At most 127 containers may be open at once. Members stay as they
are written, also several of one name.

A number that is whole and fits 64 bits, signed or not, is kept exactly; every
other one is the double that results from its first digits, as many as fit 64
bits, multiplied or divided by one rounded power of ten.
-/

namespace DebugConsole.Json

/-- How many containers may be open at once. -/
def largestDepth : Nat := 127

/-- White space between the parts of a value. -/
def isSpace (character : Char) : Bool :=
  character == ' ' || character == '\n' || character == '\t' || character == '\r'

/-- A text without the white space in front of it. -/
def skipSpace (text : List Char) : List Char := text.dropWhile isSpace

/-- The text behind a given one that stands in front. -/
def behind? (word : List Char) (text : List Char) : Option (List Char) :=
  if word.isPrefixOf text then some (text.drop word.length) else none

/-! ## Numbers -/

/-- The largest number of which further digits can be taken. -/
def largestWhole : Nat := 18446744073709551615

/-- The magnitude of the least whole number. -/
def leastMagnitude : Nat := 9223372036854775808

/-- The largest decimal exponent that is read. -/
def largestExponent : Nat := 2147483647

/-- The value of a digit. -/
def digitValue (character : Char) : Nat := character.toNat - '0'.toNat

/-- Takes digits as long as the number they form fits 64 bits. The result is the
number, how many digits were taken, and the text from the next character on. -/
def takeDigits : (value count : Nat) → List Char → Nat × Nat × List Char
  | value, count, [] => (value, count, [])
  | value, count, character :: rest =>
    if character.isDigit && value * 10 + digitValue character ≤ largestWhole then
      takeDigits (value * 10 + digitValue character) (count + 1) rest
    else (value, count, character :: rest)

/-- A double divided by powers of ten whose exponents add up to `exponent`, in
steps of at most 308. -/
def divideByTens (value : Double) : (fuel : Nat) → (exponent : Nat) → Option Double
  | 0, _ => none
  | fuel + 1, exponent =>
    if exponent ≤ 308 then (Double.powerOfTen? exponent).bind value.div?
    else if value.significand = 0 then some value
    else
      match (Double.powerOfTen? 308).bind value.div? with
      | none => none
      | some smaller => divideByTens smaller fuel (exponent - 308)

/-- The double that digits and a power of ten stand for; nothing if it is too
large. -/
def doubleOf? (negative : Bool) (digits : Nat) (exponent : Int) : Option Double := do
  let value ← Double.ofNat? negative digits
  if exponent < 0 then divideByTens value 5 (min exponent.natAbs 1200)
  else if exponent ≤ 308 then (Double.powerOfTen? exponent.natAbs).bind value.mul?
  else if digits = 0 then some value
  else none

/-- Reads an exponent, from behind its letter on, and ends the number with it. -/
def readExponent (negative : Bool) (digits : Nat) (shift : Int) (text : List Char) :
    Option (Number × List Char) := do
  let (down, text) :=
    match text with
    | '+' :: rest => (false, rest)
    | '-' :: rest => (true, rest)
    | _ => (false, text)
  let written := text.takeWhile Char.isDigit
  let rest := text.drop written.length
  if written.isEmpty then none
  let exponent := written.foldl (fun value digit => value * 10 + digitValue digit) 0
  if exponent ≤ largestExponent then
    let value ← doubleOf? negative digits (if down then shift - exponent else shift + exponent)
    some (.double value, rest)
  else if digits = 0 || down then some (.double (Double.zero negative), rest)
  else none

/-- Ends a number that is no whole one: an exponent may follow. -/
def readTail (negative : Bool) (digits : Nat) (shift : Int) (text : List Char) :
    Option (Number × List Char) :=
  match text with
  | 'e' :: rest | 'E' :: rest => readExponent negative digits shift rest
  | _ => (doubleOf? negative digits shift).map fun value => (.double value, text)

/-- Reads the digits behind a decimal point. Those that no longer fit are passed
over; the first must be a digit in any case. -/
def readFraction (negative : Bool) (digits : Nat) (shift : Int) (text : List Char) :
    Option (Number × List Char) :=
  if text.head?.any Char.isDigit then
    let (digits, count, rest) := takeDigits digits 0 text
    readTail negative digits (shift - count) (rest.dropWhile Char.isDigit)
  else none

/-- Reads a number, from behind its sign on. -/
def readNumber (negative : Bool) (text : List Char) : Option (Number × List Char) :=
  match text with
  | '0' :: rest =>
    if rest.head?.any Char.isDigit then none else afterWhole 0 0 rest
  | first :: _ =>
    if !first.isDigit then none
    else
      let (digits, _, rest) := takeDigits 0 0 text
      let further := rest.takeWhile Char.isDigit
      afterWhole digits further.length (rest.drop further.length)
  | [] => none
where
  /-- Goes on behind the digits of the whole part, `dropped` of which did not fit. -/
  afterWhole (digits dropped : Nat) (text : List Char) : Option (Number × List Char) :=
    match text with
    | '.' :: rest => readFraction negative digits dropped rest
    | 'e' :: rest | 'E' :: rest => readExponent negative digits dropped rest
    | _ =>
      if dropped ≠ 0 then readTail negative digits dropped text
      else if !negative then some (.whole digits, text)
      else if digits = 0 || leastMagnitude < digits then
        (Double.ofNat? true digits).map fun value => (.double value, text)
      else some (.whole (-digits), text)

/-! ## Strings -/

/-- The value of a hexadecimal digit. -/
def hexValue? (character : Char) : Option Nat :=
  if character.isDigit then some (digitValue character)
  else if 'a' ≤ character && character ≤ 'f' then some (character.toNat - 'a'.toNat + 10)
  else if 'A' ≤ character && character ≤ 'F' then some (character.toNat - 'A'.toNat + 10)
  else none

/-- Reads the four hexadecimal digits of an escape. -/
def readUnit : List Char → Option (Nat × List Char)
  | first :: second :: third :: fourth :: rest => do
    let high := (← hexValue? first) * 16 + (← hexValue? second)
    let low := (← hexValue? third) * 16 + (← hexValue? fourth)
    some (high * 256 + low, rest)
  | _ => none

/-- Reads an escaped character by its code, from behind the `u` on. A character
outside the basic plane is written as two halves, and neither half stands alone. -/
def readCode (text : List Char) : Option (Char × List Char) := do
  let (unit, rest) ← readUnit text
  if 0xDC00 ≤ unit && unit ≤ 0xDFFF then none
  else if 0xD800 ≤ unit && unit ≤ 0xDBFF then
    let (second, rest) ← (behind? ['\\', 'u'] rest).bind readUnit
    if 0xDC00 ≤ second && second ≤ 0xDFFF then
      some (Char.ofNat (0x10000 + (unit - 0xD800) * 1024 + (second - 0xDC00)), rest)
    else none
  else some (Char.ofNat unit, rest)

/-- Reads an escaped character, from behind its backslash on. -/
def readEscape : List Char → Option (Char × List Char)
  | '"' :: rest => some ('"', rest)
  | '\\' :: rest => some ('\\', rest)
  | '/' :: rest => some ('/', rest)
  | 'b' :: rest => some ('\x08', rest)
  | 'f' :: rest => some ('\x0c', rest)
  | 'n' :: rest => some ('\n', rest)
  | 'r' :: rest => some ('\r', rest)
  | 't' :: rest => some ('\t', rest)
  | 'u' :: rest => readCode rest
  | _ => none

/-- Reads the rest of a string up to its closing mark. `earlier` holds what has
been read, the last character first, and `fuel` bounds the characters. -/
def readChars : (fuel : Nat) → (earlier : List Char) → List Char → Option (String × List Char)
  | 0, _, _ => none
  | _ + 1, _, [] => none
  | fuel + 1, earlier, character :: rest =>
    if character == '"' then some (String.ofList earlier.reverse, rest)
    else if character == '\\' then
      match readEscape rest with
      | none => none
      | some (escaped, rest) => readChars fuel (escaped :: earlier) rest
    else if character.toNat < 0x20 then none
    else readChars fuel (character :: earlier) rest

/-- Reads a string, from behind its opening mark on. -/
def readString (text : List Char) : Option (String × List Char) :=
  readChars (text.length + 1) [] text

/-! ## Values -/

mutual

/-- Reads the value at the front of a text, with `depth` more containers allowed. -/
def readValue : (fuel depth : Nat) → List Char → Option (Json × List Char)
  | 0, _, _ => none
  | fuel + 1, depth, text =>
    match skipSpace text with
    | '"' :: rest => (readString rest).map fun (value, rest) => (.string value, rest)
    | '[' :: rest =>
      if depth = 0 then none
      else
        match skipSpace rest with
        | ']' :: rest => some (.array [], rest)
        | rest => readElements fuel (depth - 1) [] rest
    | '{' :: rest =>
      if depth = 0 then none
      else
        match skipSpace rest with
        | '}' :: rest => some (.object [], rest)
        | rest => readMembers fuel (depth - 1) [] rest
    | '-' :: rest => (readNumber true rest).map fun (value, rest) => (.number value, rest)
    | 'n' :: rest => (behind? ['u', 'l', 'l'] rest).map fun rest => (.null, rest)
    | 't' :: rest => (behind? ['r', 'u', 'e'] rest).map fun rest => (.bool true, rest)
    | 'f' :: rest => (behind? ['a', 'l', 's', 'e'] rest).map fun rest => (.bool false, rest)
    | text => (readNumber false text).map fun (value, rest) => (.number value, rest)

/-- Reads elements up to the closing bracket; `earlier` are those before, the last
one first. -/
def readElements :
    (fuel depth : Nat) → (earlier : List Json) → List Char → Option (Json × List Char)
  | 0, _, _, _ => none
  | fuel + 1, depth, earlier, text =>
    match readValue fuel depth text with
    | none => none
    | some (value, rest) =>
      match skipSpace rest with
      | ',' :: rest => readElements fuel depth (value :: earlier) rest
      | ']' :: rest => some (.array (value :: earlier).reverse, rest)
      | _ => none

/-- Reads members up to the closing bracket; `earlier` are those before, the last
one first. -/
def readMembers :
    (fuel depth : Nat) → (earlier : List (String × Json)) → List Char →
      Option (Json × List Char)
  | 0, _, _, _ => none
  | fuel + 1, depth, earlier, text =>
    match skipSpace text with
    | '"' :: rest =>
      match readString rest with
      | none => none
      | some (name, rest) =>
        match skipSpace rest with
        | ':' :: rest =>
          match readValue fuel depth rest with
          | none => none
          | some (value, rest) =>
            match skipSpace rest with
            | ',' :: rest => readMembers fuel depth ((name, value) :: earlier) rest
            | '}' :: rest => some (.object ((name, value) :: earlier).reverse, rest)
            | _ => none
        | _ => none
    | _ => none

end

/-- The value at the front of a text and the text behind it. -/
def readFront (text : List Char) : Option (Json × List Char) :=
  readValue (2 * text.length + 2) largestDepth text

/-- The value that a whole text stands for. -/
def read (text : List Char) : Option Json := do
  let (value, rest) ← readFront text
  if (skipSpace rest).isEmpty then some value else none

end DebugConsole.Json
