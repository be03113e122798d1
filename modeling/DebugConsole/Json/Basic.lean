import DebugConsole.Entries
import DebugConsole.Number.Shortest

/-!
# JSON values

Numbers keep whole numbers of 64 bits exactly and hold all others as doubles. The
members of an object keep the order in which they are given; `Json.canonical` puts
them in order of their names, and of several members of one name keeps the last.
-/

namespace DebugConsole

/-- A number: a whole one of 64 bits, signed or not, or a double. -/
inductive Json.Number where
  | whole (value : Int)
  | double (value : Double)
  deriving DecidableEq, Repr, Inhabited

/-- A JSON value. -/
inductive Json where
  | null
  | bool (value : Bool)
  | number (value : Json.Number)
  | string (value : String)
  | array (elements : List Json)
  | object (members : List (String × Json))
  deriving Repr, Inhabited

namespace Json

/-- The text of a number. -/
def Number.text : Number → String
  | .whole value => toString value
  | .double value => value.text

mutual

/-- The value with the members of every object in order of their names, each name
once. -/
def canonical : Json → Json
  | .array elements => .array (canonicalElements elements)
  | .object members => .object (Entries.ofPairs (canonicalMembers members))
  | value => value

/-- Each element in canonical form. -/
def canonicalElements : List Json → List Json
  | [] => []
  | element :: later => canonical element :: canonicalElements later

/-- Each member's value in canonical form. -/
def canonicalMembers : List (String × Json) → List (String × Json)
  | [] => []
  | (name, value) :: later => (name, canonical value) :: canonicalMembers later

end

end Json

end DebugConsole
