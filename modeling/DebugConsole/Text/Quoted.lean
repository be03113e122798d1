import DebugConsole.Text.Graphic

/-!
# Quoted texts

A text between quotation marks, written so that every character of it can be seen:
marks and backslashes are escaped, and so is what has no glyph of its own.
-/

namespace DebugConsole.Text

/-- The hexadecimal digits of a number, in lower case. -/
def hexDigits (number : Nat) : List Char := Nat.toDigits 16 number

/-- A character as it stands in a quoted text. -/
def quoteChar (character : Char) : List Char :=
  match character with
  | '\x00' => ['\\', '0']
  | '\t' => ['\\', 't']
  | '\n' => ['\\', 'n']
  | '\r' => ['\\', 'r']
  | '"' => ['\\', '"']
  | '\\' => ['\\', '\\']
  | _ =>
    if isGraphic character then [character]
    else ['\\', 'u', '{'] ++ hexDigits character.toNat ++ ['}']

/-- A text in quotation marks. -/
def quote (text : String) : String :=
  String.ofList ('"' :: text.toList.flatMap quoteChar ++ ['"'])

/-- The quoted texts of a list, in brackets. -/
def quoteList (texts : List String) : String := "[" ++ ", ".intercalate (texts.map quote) ++ "]"

end DebugConsole.Text
