import DebugConsole.Pattern.Basic

/-!
# Finding patterns

`Pattern.Node.outcomes` lists every way in which a node can be found from a
place, the preferred one first: a sequence tries the outcomes of its left part in
order, an alternative those of its left part before those of its right part, and
a greedy repetition goes on before it stops. The preferred outcome at the
leftmost place that has any is the match, `Pattern.match?`.

A repetition that has already been entered at a place is not entered there again.
That leaves the first outcome of every place unchanged, and it ends the repetition
of a body that consumes nothing.
-/

namespace DebugConsole

/-- A stretch of a text, counted in characters. -/
structure Span where
  start : Nat
  stop : Nat
  deriving DecidableEq, Repr, Inhabited

/-- The characters of a stretch. -/
def Span.text (span : Span) (text : List Char) : List Char :=
  (text.drop span.start).take (span.stop - span.start)

namespace Pattern

/-- A place in a text: the character before it, how many characters precede it,
and the text after it. -/
structure Cursor where
  before : Option Char
  offset : Nat
  rest : List Char
  deriving Repr

namespace Cursor

/-- The place before all of a text. -/
def start (text : List Char) : Cursor := ⟨none, 0, text⟩

/-- Whether the character before a place belongs to a set. -/
def isAfter (cursor : Cursor) (members : CharSet) : Bool :=
  cursor.before.any members.contains

/-- Whether the character after a place belongs to a set. -/
def isBefore (cursor : Cursor) (members : CharSet) : Bool :=
  cursor.rest.head?.any members.contains

end Cursor

/-- Whether a place lies at a border of words. -/
def Border.holds (kind : Border) (letters : CharSet) (cursor : Cursor) : Bool :=
  let after := cursor.isAfter letters
  let before := cursor.isBefore letters
  match kind with
  | .either => after != before
  | .neither => after == before
  | .start => !after && before
  | .stop => after && !before
  | .startHalf => !after
  | .stopHalf => !before

/-- Whether a place meets a condition. -/
def Anchor.holds (cursor : Cursor) : Anchor → Bool
  | .textStart => cursor.before.isNone
  | .textEnd => cursor.rest.isEmpty
  | .lineStart => cursor.before.isNone || cursor.before == some '\n'
  | .lineEnd => cursor.rest.isEmpty || cursor.rest.head? == some '\n'
  | .returnLineStart =>
    cursor.before.isNone || cursor.before == some '\n' ||
      (cursor.before == some '\r' && cursor.rest.head? != some '\n')
  | .returnLineEnd =>
    cursor.rest.isEmpty || cursor.rest.head? == some '\r' ||
      (cursor.rest.head? == some '\n' && cursor.before != some '\r')
  | .border kind letters => kind.holds letters cursor

/-- A place reached while looking for a pattern, with the groups found on the
way, the latest first. -/
structure Progress where
  cursor : Cursor
  groups : List (Nat × Span)
  deriving Repr

/-- The places after one, two, three and more characters of a set, the furthest
first. `found` are those already passed. -/
def runEnds (members : CharSet) (groups : List (Nat × Span)) :
    (found : List Progress) → (offset : Nat) → List Char → List Progress
  | found, _, [] => found
  | found, offset, character :: rest =>
    if members.contains character then
      runEnds members groups (⟨⟨some character, offset + 1, rest⟩, groups⟩ :: found)
        (offset + 1) rest
    else found

/-- The outcomes of repeating a step from a place, together with the offsets at
which the repetition has been entered so far. `fuel` bounds the entries; there
are never more than places in the text. -/
def iterate (greedy : Bool) (step : Progress → List Progress) :
    (fuel : Nat) → (entered : List Nat) → Progress → List Nat × List Progress
  | 0, entered, _ => (entered, [])
  | fuel + 1, entered, progress =>
    (step progress).foldl
      (fun (entered, found) reached =>
        let offset := reached.cursor.offset
        if entered.contains offset then (entered, found ++ [reached])
        else
          let (entered, further) := iterate greedy step fuel (offset :: entered) reached
          (entered, found ++ if greedy then further ++ [reached] else reached :: further))
      (entered, [])

namespace Node

/-- Every way to find a node from a place, the preferred one first. -/
def outcomes : Node → Progress → List Progress
  | .empty, progress => [progress]
  | .set members, progress =>
    match progress.cursor.rest with
    | [] => []
    | character :: rest =>
      if members.contains character then
        [⟨⟨some character, progress.cursor.offset + 1, rest⟩, progress.groups⟩]
      else []
  | .anchor condition, progress => if condition.holds progress.cursor then [progress] else []
  | .group index body, progress =>
    (body.outcomes progress).map fun reached =>
      ⟨reached.cursor,
        (index, ⟨progress.cursor.offset, reached.cursor.offset⟩) :: reached.groups⟩
  | .seq left right, progress => (left.outcomes progress).flatMap right.outcomes
  | .alt left right, progress => left.outcomes progress ++ right.outcomes progress
  | .optional greedy body, progress =>
    if greedy then body.outcomes progress ++ [progress] else progress :: body.outcomes progress
  | .plus greedy body, progress =>
    (iterate greedy body.outcomes (progress.cursor.rest.length + 1)
      [progress.cursor.offset] progress).2
  | .run greedy members, progress =>
    let ends := runEnds members progress.groups [] progress.cursor.offset progress.cursor.rest
    if greedy then ends else ends.reverse

end Node

end Pattern

/-- Where a pattern was found, and which groups took part, the latest first. -/
structure Match where
  span : Span
  groups : List (Nat × Span)
  deriving DecidableEq, Repr

namespace Match

/-- Where a group was found. Group 0 is the whole match. -/
def group? (found : Match) (index : Nat) : Option Span :=
  if index = 0 then some found.span else found.groups.lookup index

end Match

namespace Pattern

/-- The preferred outcome at the first place from which a node can be found. -/
def Node.findFrom (node : Node) :
    (before : Option Char) → (offset : Nat) → List Char → Option Match
  | before, offset, [] =>
    (node.outcomes ⟨⟨before, offset, []⟩, []⟩).head?.map fun reached =>
      ⟨⟨offset, reached.cursor.offset⟩, reached.groups⟩
  | before, offset, character :: rest =>
    match node.outcomes ⟨⟨before, offset, character :: rest⟩, []⟩ with
    | reached :: _ => some ⟨⟨offset, reached.cursor.offset⟩, reached.groups⟩
    | [] => findFrom node (some character) (offset + 1) rest

/-- The leftmost match of a pattern in a text. -/
def match? (pattern : Pattern) (text : List Char) : Option Match :=
  pattern.node.findFrom none 0 text

end Pattern

end DebugConsole
