import DebugConsole.Pattern.CharSet

/-!
# Patterns

The shape of a pattern, apart from its spelling. A `Pattern.Node` is what has to
be found; a `Pattern` adds the text it was read from and the names of its groups.
-/

namespace DebugConsole

namespace Pattern

/-- Which side of a place may be inside a word. -/
inductive Border where
  | either
  | neither
  | start
  | stop
  | startHalf
  | stopHalf
  deriving DecidableEq, Repr, Inhabited

/-- A condition on a place between two characters. -/
inductive Anchor where
  | textStart
  | textEnd
  | lineStart
  | lineEnd
  /-- After any line break, where a carriage return with its line feed is one. -/
  | returnLineStart
  /-- Before any line break, where a carriage return with its line feed is one. -/
  | returnLineEnd
  | border (kind : Border) (letters : CharSet)
  deriving DecidableEq, Repr, Inhabited

/-- What is looked for. A greedy repetition prefers more, a lazy one less. -/
inductive Node where
  | empty
  | set (members : CharSet)
  | anchor (condition : Anchor)
  | group (index : Nat) (body : Node)
  | seq (left right : Node)
  | alt (left right : Node)
  | optional (greedy : Bool) (body : Node)
  /-- One or more times the body. -/
  | plus (greedy : Bool) (body : Node)
  /-- One or more characters of one set: `plus` of a `set`, found in one pass. -/
  | run (greedy : Bool) (members : CharSet)
  deriving DecidableEq, Repr, Inhabited

namespace Node

/-- One given character. -/
def char (character : Char) : Node := .set (.single character)

/-- The parts one after the other. -/
def ofList : List Node → Node
  | [] => .empty
  | [node] => node
  | node :: later => .seq node (ofList later)

/-- A given text. -/
def literal (text : String) : Node := ofList (text.toList.map char)

/-- The repetition of a body, at least once. -/
def oneOrMore (greedy : Bool) : Node → Node
  | .set members => .run greedy members
  | body => .plus greedy body

/-- The repetition of a body, possibly not at all. -/
def zeroOrMore (greedy : Bool) (body : Node) : Node := .optional greedy (body.oneOrMore greedy)

/-- At most `count` times the body, each further one only after the one before. -/
def atMost (greedy : Bool) (body : Node) : Nat → Node
  | 0 => .empty
  | 1 => .optional greedy body
  | count + 1 => .optional greedy (.seq body (atMost greedy body count))

/-- How many places a node has, as a measure of its size. -/
def size : Node → Nat
  | .empty | .set _ | .anchor _ | .run _ _ => 1
  | .group _ body | .optional _ body | .plus _ body => body.size + 1
  | .seq left right | .alt left right => left.size + right.size

end Node

end Pattern

/-- A pattern: the text that spells it, what it looks for, and the numbers of its
named groups. -/
structure Pattern where
  source : String
  node : Pattern.Node
  names : List (String × Nat)
  deriving DecidableEq, Repr, Inhabited

namespace Pattern

/-- The number of a named group. -/
def groupNumber? (pattern : Pattern) (name : String) : Option Nat :=
  pattern.names.lookup name

end Pattern

end DebugConsole
