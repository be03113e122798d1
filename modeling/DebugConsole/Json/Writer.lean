import DebugConsole.Json.Basic

/-!
# Writing JSON

The compact text of a value: no white space, members in the order in which the
value holds them, and in a string only quotation marks, backslashes and control
characters escaped. No line break stands in such a text.
-/

namespace DebugConsole.Json

/-- A hexadecimal digit in lower case. -/
def hexDigit (value : Nat) : Char := Nat.digitChar value

/-- A character as it stands in a written string. -/
def escapeChar (character : Char) : List Char :=
  match character with
  | '"' => ['\\', '"']
  | '\\' => ['\\', '\\']
  | '\x08' => ['\\', 'b']
  | '\x0c' => ['\\', 'f']
  | '\n' => ['\\', 'n']
  | '\r' => ['\\', 'r']
  | '\t' => ['\\', 't']
  | _ =>
    if character.toNat < 0x20 then
      ['\\', 'u', '0', '0', hexDigit (character.toNat / 16), hexDigit (character.toNat % 16)]
    else [character]

/-- A string between its quotation marks. -/
def writeString (text : String) : List Char := '"' :: text.toList.flatMap escapeChar ++ ['"']

mutual

/-- The compact text of a value. -/
def writeChars : Json → List Char
  | .null => ['n', 'u', 'l', 'l']
  | .bool true => ['t', 'r', 'u', 'e']
  | .bool false => ['f', 'a', 'l', 's', 'e']
  | .number value => value.text.toList
  | .string value => writeString value
  | .array [] => ['[', ']']
  | .array (first :: later) => '[' :: writeChars first ++ writeElements later
  | .object [] => ['{', '}']
  | .object ((name, value) :: later) =>
    '{' :: writeString name ++ ':' :: writeChars value ++ writeMembers later

/-- The text of further elements and of the bracket behind them. -/
def writeElements : List Json → List Char
  | [] => [']']
  | element :: later => ',' :: writeChars element ++ writeElements later

/-- The text of further members and of the bracket behind them. -/
def writeMembers : List (String × Json) → List Char
  | [] => ['}']
  | (name, value) :: later =>
    ',' :: writeString name ++ ':' :: writeChars value ++ writeMembers later

end

/-- The compact text of a value. -/
def write (value : Json) : String := String.ofList value.writeChars

end DebugConsole.Json
