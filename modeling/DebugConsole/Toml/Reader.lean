import DebugConsole.Toml.Basic

/-!
# Reading TOML

`Toml.read` gives the table of a whole document. A text with anything in it that is
not TOML is refused as a whole. Reading functions return what they read and the
text behind it; `fuel` bounds how often they go on and is never less than the
length of the text.
-/

namespace DebugConsole.Toml

/-- A reading step over the front of a text. -/
abbrev Front (Value : Type) := Option (Value × List Char)

/-- A character that may stand in a comment or in a text without an escape. -/
def isPlain (character : Char) : Bool :=
  character == '\t' || (0x20 ≤ character.toNat && character.toNat ≠ 0x7F)

/-- A text without the blanks in front of it. -/
def skipBlanks (text : List Char) : List Char :=
  text.dropWhile fun character => character == ' ' || character == '\t'

/-- The text behind a line break in front. -/
def lineBreak? : List Char → Option (List Char)
  | '\n' :: rest => some rest
  | '\r' :: '\n' :: rest => some rest
  | _ => none

/-- The text behind a comment, if there is one in front. -/
def skipComment : List Char → List Char
  | '#' :: rest => rest.dropWhile isPlain
  | text => text

/-- Passes over blanks, line breaks and comments. -/
def skipLines : (fuel : Nat) → List Char → List Char
  | 0, text => text
  | fuel + 1, text =>
    let rest := skipComment (skipBlanks text)
    match lineBreak? rest with
    | some rest => skipLines fuel rest
    | none => rest

/-! ## Texts -/

/-- The character with a code point in hexadecimal digits. -/
def codePoint? (digits : List Char) : Option Char := do
  let code ← digits.foldlM (fun value digit =>
    if digit.isDigit then some (value * 16 + (digit.toNat - '0'.toNat))
    else if 'a' ≤ digit && digit ≤ 'f' then some (value * 16 + (digit.toNat - 'a'.toNat + 10))
    else if 'A' ≤ digit && digit ≤ 'F' then some (value * 16 + (digit.toNat - 'A'.toNat + 10))
    else none) 0
  if code < 0xD800 || (0xDFFF < code && code < 0x110000) then some (Char.ofNat code) else none

/-- An escaped character, from behind the backslash on. -/
def escaped? : List Char → Front Char
  | 'b' :: rest => some ('\x08', rest)
  | 't' :: rest => some ('\t', rest)
  | 'n' :: rest => some ('\n', rest)
  | 'f' :: rest => some ('\x0c', rest)
  | 'r' :: rest => some ('\r', rest)
  | '"' :: rest => some ('"', rest)
  | '\\' :: rest => some ('\\', rest)
  | 'u' :: rest => if rest.length < 4 then none else (codePoint? (rest.take 4)).map (·, rest.drop 4)
  | 'U' :: rest => if rest.length < 8 then none else (codePoint? (rest.take 8)).map (·, rest.drop 8)
  | _ => none

/-- The rest of a text in quotation marks on one line. -/
def basicText : (fuel : Nat) → (earlier : List Char) → List Char → Front String
  | 0, _, _ => none
  | _ + 1, _, [] => none
  | fuel + 1, earlier, character :: rest =>
    if character == '"' then some (String.ofList earlier.reverse, rest)
    else if character == '\\' then
      match escaped? rest with
      | some (value, rest) => basicText fuel (value :: earlier) rest
      | none => none
    else if isPlain character then basicText fuel (character :: earlier) rest
    else none

/-- The rest of a text in apostrophes on one line. -/
def literalText (text : List Char) : Front String :=
  let held := text.takeWhile fun character => character != '\'' && isPlain character
  match text.drop held.length with
  | '\'' :: rest => some (String.ofList held, rest)
  | _ => none

/-- The end of a text over several lines: its closing marks, in front of which up
to two marks belong to the text. -/
def closing? (mark : Char) (text : List Char) : Front (List Char) :=
  let marks := (text.takeWhile (· == mark)).length
  if marks < 3 then none
  else
    let kept := min (marks - 3) 2
    some (List.replicate kept mark, text.drop (kept + 3))

/-- Passes over a line break behind a backslash, and over all blank space after it. -/
def continued? (text : List Char) : Option (List Char) :=
  (lineBreak? (skipBlanks text)).map fun rest =>
    rest.dropWhile fun character =>
      character == ' ' || character == '\t' || character == '\n' || character == '\r'

/-- The rest of a text over several lines, between given marks. Backslashes escape
only where `escapes` says so. -/
def longText (mark : Char) (escapes : Bool) :
    (fuel : Nat) → (earlier : List Char) → List Char → Front String
  | 0, _, _ => none
  | fuel + 1, earlier, text =>
    match closing? mark text with
    | some (kept, rest) => some (String.ofList (earlier.reverse ++ kept), rest)
    | none =>
      match lineBreak? text, text with
      | some rest, _ => longText mark escapes fuel ('\n' :: earlier) rest
      | none, [] => none
      | none, character :: rest =>
        if escapes && character == '\\' then
          match continued? rest with
          | some rest => longText mark escapes fuel earlier rest
          | none =>
            match escaped? rest with
            | some (value, rest) => longText mark escapes fuel (value :: earlier) rest
            | none => none
        else if isPlain character then longText mark escapes fuel (character :: earlier) rest
        else none

/-- A text without the line break right behind its opening marks. -/
def dropFirstBreak (text : List Char) : List Char := (lineBreak? text).getD text

/-- A text, if one is in front. -/
def text? (fuel : Nat) : List Char → Front String
  | '"' :: '"' :: '"' :: rest => longText '"' true fuel [] (dropFirstBreak rest)
  | '\'' :: '\'' :: '\'' :: rest => longText '\'' false fuel [] (dropFirstBreak rest)
  | '"' :: rest => basicText fuel [] rest
  | '\'' :: rest => literalText rest
  | _ => none

/-! ## Keys -/

/-- A character of a key without marks. -/
def isBare (character : Char) : Bool :=
  character.isAlphanum || character == '-' || character == '_'

/-- One part of a key. -/
def simpleKey? (fuel : Nat) : List Char → Front String
  | '"' :: rest => basicText fuel [] rest
  | '\'' :: rest => literalText rest
  | text =>
    let name := text.takeWhile isBare
    if name.isEmpty then none else some (String.ofList name, text.drop name.length)

/-- A key: its parts, which dots join. -/
def key? : (fuel : Nat) → (earlier : List String) → List Char → Front (List String)
  | 0, _, _ => none
  | fuel + 1, earlier, text =>
    match simpleKey? fuel (skipBlanks text) with
    | none => none
    | some (name, rest) =>
      match skipBlanks rest with
      | '.' :: rest => key? fuel (name :: earlier) rest
      | rest => some ((name :: earlier).reverse, rest)

/-! ## Numbers and dates -/

/-- Digits with single underscores between them, without these. -/
def groupedDigits? (isDigit : Char → Bool) (text : List Char) : Option (List Char) :=
  let groups := text.splitOn '_'
  if groups.all fun group => !group.isEmpty && group.all isDigit then some groups.flatten
  else none

/-- The number that digits stand for in a base. -/
def numberIn (base : Nat) (digits : List Char) : Nat :=
  digits.foldl (fun value digit =>
    value * base +
      (if digit.isDigit then digit.toNat - '0'.toNat else digit.toLower.toNat - 'a'.toNat + 10)) 0

/-- The sign in front of a number, if it is a minus, and the text behind any sign. -/
def sign : List Char → Bool × List Char
  | '+' :: rest => (false, rest)
  | '-' :: rest => (true, rest)
  | text => (false, text)

/-- Decimal digits as a whole number, which has no needless zero in front. -/
def decimal? (text : List Char) : Option (List Char) := do
  let digits ← groupedDigits? Char.isDigit text
  if digits.length > 1 && digits.head? == some '0' then none else some digits

/-- A whole number of 64 bits. -/
def integer? (token : List Char) : Option Int :=
  let bounded (value : Int) : Option Int :=
    if -9223372036854775808 ≤ value ∧ value ≤ 9223372036854775807 then some value else none
  let isHexDigit (character : Char) : Bool :=
    character.isDigit || ('a' ≤ character && character ≤ 'f') ||
      ('A' ≤ character && character ≤ 'F')
  match token with
  | '0' :: 'x' :: digits => do bounded (numberIn 16 (← groupedDigits? isHexDigit digits))
  | '0' :: 'o' :: digits =>
    do bounded (numberIn 8 (← groupedDigits? (fun digit => '0' ≤ digit && digit ≤ '7') digits))
  | '0' :: 'b' :: digits =>
    do bounded (numberIn 2 (← groupedDigits? (fun digit => '0' ≤ digit && digit ≤ '1') digits))
  | _ => do
    let (negative, digits) := sign token
    let value := numberIn 10 (← decimal? digits)
    bounded (if negative then -value else value)

/-- Whether a token is a fractional number. -/
def isFloat (token : List Char) : Bool :=
  let body := (sign token).2
  if body == ['i', 'n', 'f'] || body == ['n', 'a', 'n'] then true
  else
    let mantissa := body.takeWhile fun character => character != 'e' && character != 'E'
    let exponent := body.drop (mantissa.length + 1)
    let exponentHolds :=
      mantissa.length == body.length ||
        (groupedDigits? Char.isDigit (sign exponent).2).isSome
    match mantissa.splitOn '.' with
    | [whole] => mantissa.length < body.length && (decimal? whole).isSome && exponentHolds
    | [whole, fraction] =>
      (decimal? whole).isSome && (groupedDigits? Char.isDigit fraction).isSome && exponentHolds
    | _ => false

/-- Two digits up to a largest value. -/
def pairUpTo (least largest : Nat) (text : List Char) : Bool :=
  text.length == 2 && text.all Char.isDigit && least ≤ numberIn 10 text &&
    numberIn 10 text ≤ largest

/-- The days of a month. -/
def daysOf (year month : Nat) : Nat :=
  if month == 2 then
    if (year % 4 == 0 && year % 100 != 0) || year % 400 == 0 then 29 else 28
  else if month == 4 || month == 6 || month == 9 || month == 11 then 30
  else 31

/-- Whether a token is a day. -/
def isDay (token : List Char) : Bool :=
  match token.splitOn '-' with
  | [year, month, day] =>
    year.length == 4 && year.all Char.isDigit && pairUpTo 1 12 month &&
      pairUpTo 1 (daysOf (numberIn 10 year) (numberIn 10 month)) day
  | _ => false

/-- Whether a token is a time of day. -/
def isTime (token : List Char) : Bool :=
  match token.splitOn ':' with
  | [hour, minute, second] =>
    let whole := second.takeWhile (· != '.')
    let fraction := second.drop whole.length
    pairUpTo 0 23 hour && pairUpTo 0 59 minute && pairUpTo 0 60 whole &&
      (fraction.isEmpty || (fraction.length > 1 && (fraction.drop 1).all Char.isDigit))
  | _ => false

/-- Whether a token is a distance from universal time. -/
def isOffset (token : List Char) : Bool :=
  match token with
  | ['Z'] | ['z'] => true
  | '+' :: rest | '-' :: rest =>
    match rest.splitOn ':' with
    | [hour, minute] => pairUpTo 0 23 hour && pairUpTo 0 59 minute
    | _ => false
  | _ => false

/-- Whether a token is a day, a time, or both with or without an offset. -/
def isDate (token : List Char) : Bool :=
  let day := token.take 10
  if isTime token then true
  else if !isDay day then false
  else
    match token.drop 10 with
    | [] => true
    | separator :: rest =>
      let time := rest.takeWhile fun character => character.isDigit || character == ':' || character == '.'
      let offset := rest.drop time.length
      ['T', 't', ' '].contains separator && isTime time && (offset.isEmpty || isOffset offset)

/-- The token in front: what a number, a date or a word can consist of. A day goes on
over one blank if a time follows. -/
def token (text : List Char) : List Char :=
  let isPart (character : Char) : Bool :=
    character.isAlphanum || ['+', '-', '_', '.', ':'].contains character
  let first := text.takeWhile isPart
  match text.drop first.length with
  | ' ' :: rest =>
    let further := rest.takeWhile isPart
    if isDay first && (further.drop 2).head? == some ':' then first ++ ' ' :: further else first
  | _ => first

/-- The value of a token. -/
def ofToken? (token : List Char) : Option Toml :=
  if token == ['t', 'r', 'u', 'e'] then some (.boolean true)
  else if token == ['f', 'a', 'l', 's', 'e'] then some (.boolean false)
  else if isDate token then some .date
  else if isFloat token then some .float
  else (integer? token).map .integer

/-! ## Values -/

mutual

/-- A value. -/
def value? : (fuel : Nat) → List Char → Front Toml
  | 0, _ => none
  | fuel + 1, text =>
    match text with
    | '"' :: _ | '\'' :: _ => (text? fuel text).map fun (held, rest) => (.string held, rest)
    | '[' :: rest => elements fuel [] rest
    | '{' :: rest =>
      match skipBlanks rest with
      | '}' :: rest => some (.table .inline [], rest)
      | rest => pairs fuel [] rest
    | _ =>
      let found := token text
      (ofToken? found).map fun value => (value, text.drop found.length)

/-- The elements of an array up to its closing bracket. -/
def elements : (fuel : Nat) → (earlier : List Toml) → List Char → Front Toml
  | 0, _, _ => none
  | fuel + 1, earlier, text =>
    match skipLines fuel text with
    | ']' :: rest => some (.array earlier.reverse, rest)
    | rest =>
      match value? fuel rest with
      | none => none
      | some (value, rest) =>
        match skipLines fuel rest with
        | ',' :: rest => elements fuel (value :: earlier) rest
        | ']' :: rest => some (.array (value :: earlier).reverse, rest)
        | _ => none

/-- The keys of a table in braces up to the closing brace. -/
def pairs : (fuel : Nat) → (earlier : Entries) → List Char → Front Toml
  | 0, _, _ => none
  | fuel + 1, earlier, text =>
    match key? fuel [] text with
    | some (path, '=' :: rest) =>
      match value? fuel (skipBlanks rest) with
      | none => none
      | some (value, rest) =>
        match addKey (path.getLast?.getD "") value path.dropLast .inline earlier with
        | none => none
        | some entries =>
          match skipBlanks rest with
          | ',' :: rest => pairs fuel entries rest
          | '}' :: rest => some (.table .inline entries, rest)
          | _ => none
    | _ => none

end

/-! ## Documents -/

/-- The text behind the end of a line, on which only a comment may still stand. -/
def endOfLine? (text : List Char) : Option (List Char) :=
  match skipComment (skipBlanks text) with
  | [] => some []
  | rest => lineBreak? rest

/-- A header: its path, its last key, and whether it opens one of several tables. -/
def header? (fuel : Nat) (text : List Char) : Front (List String × String × Bool) :=
  match text with
  | '[' :: '[' :: rest =>
    match key? fuel [] rest with
    | some (path, ']' :: ']' :: rest) =>
      some ((path.dropLast, path.getLast?.getD "", true), rest)
    | _ => none
  | '[' :: rest =>
    match key? fuel [] rest with
    | some (path, ']' :: rest) => some ((path.dropLast, path.getLast?.getD "", false), rest)
    | _ => none
  | _ => none

/-- Reads the lines of a document into the table `root`; `current` is the path of
the header in force. -/
def lines : (fuel : Nat) → (current : List String) → (root : Entries) → List Char → Option Entries
  | 0, _, _, _ => none
  | fuel + 1, current, root, text =>
    match skipLines fuel text with
    | [] => some root
    | '[' :: rest =>
      match header? fuel ('[' :: rest) with
      | none => none
      | some ((path, key, further), rest) =>
        match if further then openFurther path key root else openTable path key root,
          endOfLine? rest with
        | some root, some rest => lines fuel (path ++ [key]) root rest
        | _, _ => none
    | rest =>
      match key? fuel [] rest with
      | some (path, '=' :: rest) =>
        match value? fuel (skipBlanks rest) with
        | none => none
        | some (value, rest) =>
          let add := addKey (path.getLast?.getD "") value path.dropLast .header
          match alterAt add current root, endOfLine? rest with
          | some root, some rest => lines fuel current root rest
          | _, _ => none
      | _ => none

/-- The table of a document. A byte order mark in front of it is passed over. -/
def read (document : String) : Option Entries :=
  let text :=
    match document.toList with
    | '\uFEFF' :: rest => rest
    | text => text
  lines (2 * text.length + 4) [] [] text

end DebugConsole.Toml
