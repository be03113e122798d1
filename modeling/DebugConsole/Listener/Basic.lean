import DebugConsole.Listener.Rule
import DebugConsole.Text.Utf8

/-!
# Listening to a console

A `Listener` takes the output of a console as it comes, cut at arbitrary places,
and reports events. Feeding it a chunk has three parts: the chunk is decoded and
appended to the text not yet accounted for, rules are applied to that text until
none fires, and a text that has outgrown its bounds is cut short.

`Listener.firing?` is the only place where a rule is chosen: the first rule of the
current state whose pattern is found anywhere in the text. Each `Firing` takes a
segment from the front of the text, so the text heard is at all times the segments
taken, the text given up and the text still buffered, in order.
-/

namespace DebugConsole

/-- How much text may wait for a rule. -/
structure Bounds where
  /-- The text is cut short once it takes more bytes than this. -/
  maxBytes : Nat
  /-- So many bytes are left of a text that is cut short, at most. -/
  keepTail : Nat
  deriving DecidableEq, Repr

/-- The bounds where none are given. -/
def Bounds.standard : Bounds := ⟨65536, 4096⟩

/-- A listener: its rules, the state inferred so far, the text not yet accounted
for, and the bytes at the end of the stream that are no complete character yet. -/
structure Listener where
  book : Rulebook
  state : RunState
  buffer : List Char
  pending : List UInt8
  bounds : Bounds

/-- A rule that fires: which one of its state, how many characters it takes from
the front of the text, and its reaction. -/
structure Firing where
  index : Nat
  consumed : Nat
  reaction : Reaction

namespace Listener

/-- A listener that has heard nothing. The line break in its text lets patterns
that start at a line break see the very first line. -/
def fresh (book : Rulebook) (state : RunState) (bounds : Bounds) : Listener :=
  ⟨book, state, ['\n'], [], bounds⟩

/-- A listener in a given state, unless that state has no rules. -/
def new? (book : Rulebook) (state : RunState) (bounds : Bounds) : Option Listener :=
  if (book.rules state).isEmpty then none else some (fresh book state bounds)

/-- How many bytes the buffered text takes. -/
def bufferedBytes (listener : Listener) : Nat := Utf8.byteLength listener.buffer

/-- Appends a chunk to the text and holds back an incomplete character at its end. -/
def hear (listener : Listener) (chunk : List UInt8) : Listener :=
  let bytes := listener.pending ++ chunk
  let complete := bytes.length - Utf8.heldBack bytes
  { listener with
    buffer := listener.buffer ++ Utf8.lossy (bytes.take complete)
    pending := bytes.drop complete }

/-- The first of some rules that is found in a text, the first of them having the
given index. -/
def firstFiring (text : List Char) : (index : Nat) → List Rule → Option Firing
  | _, [] => none
  | index, rule :: later =>
    match rule.find? text with
    | some finding => some ⟨index, finding.consumed, rule.react finding⟩
    | none => firstFiring text (index + 1) later

/-- The rule that fires on the buffered text, if one does. -/
def firing? (listener : Listener) : Option Firing :=
  firstFiring listener.buffer 0 (listener.book.rules listener.state)

/-- What is left after a rule has fired. -/
def fire (listener : Listener) (firing : Firing) : Listener :=
  { listener with
    buffer := listener.buffer.drop firing.consumed
    state := firing.reaction.next }

/-- Applies rules until none fires. One that takes no text is the last, since it
would fire again for ever. `fired` are those that fired before, the latest first. -/
def settleOnto (fired : List Firing) (listener : Listener) : List Firing × Listener :=
  match listener.firing? with
  | none => (fired.reverse, listener)
  | some firing =>
    if firing.consumed = 0 ∨ listener.buffer = [] then
      ((firing :: fired).reverse, listener.fire firing)
    else settleOnto (firing :: fired) (listener.fire firing)
termination_by listener.buffer.length
decreasing_by
  rename_i going
  have nonempty : listener.buffer.length ≠ 0 := fun zero =>
    going (Or.inr (List.length_eq_zero_iff.mp zero))
  have progress : firing.consumed ≠ 0 := fun zero => going (Or.inl zero)
  simp only [fire, List.length_drop]
  omega

/-- The rules that fire one after the other, and what is left after them. -/
def settle (listener : Listener) : List Firing × Listener := settleOnto [] listener

/-- The longest end of a text that takes at most so many bytes. `reversed` is the
text not looked at yet, last character first, and `kept` what is kept already. -/
def keepFrom (kept : List Char) (room : Nat) : (reversed : List Char) → List Char
  | [] => kept
  | character :: earlier =>
    if character.utf8Size ≤ room then
      keepFrom (character :: kept) (room - character.utf8Size) earlier
    else kept

/-- The longest end of a text that takes at most so many bytes. -/
def longestEnd (room : Nat) (text : List Char) : List Char := keepFrom [] room text.reverse

/-- Cuts a text short that has outgrown its bounds, and tells how many bytes were
given up. -/
def trim (listener : Listener) : Option Nat × Listener :=
  if listener.bufferedBytes ≤ listener.bounds.maxBytes then (none, listener)
  else
    let kept := longestEnd listener.bounds.keepTail listener.buffer
    (some (listener.bufferedBytes - Utf8.byteLength kept), { listener with buffer := kept })

/-- Feeds a chunk of output: the events it leads to, and the listener afterwards. -/
def feed (listener : Listener) (chunk : List UInt8) : List Event × Listener :=
  let (fired, settled) := (listener.hear chunk).settle
  let (discarded, trimmed) := settled.trim
  (fired.filterMap (·.reaction.event) ++ (discarded.map Event.stalled).toList, trimmed)

/-- Feeds chunks one after the other: the events of each, and the listener after
all of them. -/
def feedAll (listener : Listener) : List (List UInt8) → List (List Event) × Listener
  | [] => ([], listener)
  | chunk :: later =>
    let (events, fed) := listener.feed chunk
    let (further, last) := fed.feedAll later
    (events :: further, last)

end Listener

end DebugConsole
