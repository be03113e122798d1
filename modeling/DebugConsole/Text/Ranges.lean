/-!
# Tables of characters

A set of characters as a list of code point ranges in ascending order.
-/

namespace DebugConsole.Text

/-- Inclusive code point ranges, ascending and apart. -/
abbrev Ranges := List (Nat × Nat)

/-- Looks a code point up; the search ends at the first range past it. -/
def Ranges.hasCode (code : Nat) : Ranges → Bool
  | [] => false
  | (low, high) :: later =>
    if code < low then false else code ≤ high || hasCode code later

/-- Membership of a character in a table. -/
def Ranges.contains (ranges : Ranges) (character : Char) : Bool :=
  ranges.hasCode character.toNat

end DebugConsole.Text
