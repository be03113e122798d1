/-!
# White space

The characters with the Unicode property White_Space, and texts freed of them at
both ends. Every rule of this library that ignores surrounding white space uses
this set, so a no-break space counts and a zero-width space does not.
-/

namespace DebugConsole.Text

/-- The characters with the Unicode property White_Space. -/
def isBlank (character : Char) : Bool :=
  let code := character.toNat
  (9 ≤ code && code ≤ 13) || code == 0x20 || code == 0x85 || code == 0xA0 ||
    code == 0x1680 || (0x2000 ≤ code && code ≤ 0x200A) || code == 0x2028 ||
    code == 0x2029 || code == 0x202F || code == 0x205F || code == 0x3000

/-- The text without the white space in front of it. -/
def trimStart (text : List Char) : List Char := text.dropWhile isBlank

/-- The text without the white space after it. -/
def trimEnd (text : List Char) : List Char := (text.reverse.dropWhile isBlank).reverse

/-- The text without the white space around it. -/
def trim (text : List Char) : List Char := trimEnd (trimStart text)

/-- A text of white space only, such as the empty one. -/
def isAllBlank (text : List Char) : Bool := text.all isBlank

end DebugConsole.Text
