import DebugConsole.Scenario.Basic
import DebugConsole.Text.Quoted

/-!
# Expectations

When notes, states and typed lines are as a scenario expects them. The first
difference found is told: the number of notes counts before the notes themselves, and
these before the state.
-/

namespace DebugConsole

/-- Whether a text occurs in another one. -/
def Text.occursIn (part : List Char) : List Char → Bool
  | [] => part.isEmpty
  | character :: rest => part.isPrefixOf (character :: rest) || occursIn part rest

/-- Breakpoints as they are shown in a message: quoted texts in braces. -/
def Breakpoints.text (breakpoints : Breakpoints) : String :=
  let entries := breakpoints.entries.map fun entry =>
    Text.quote entry.1 ++ ": " ++ Text.quoteList entry.2
  "\x7b" ++ ", ".intercalate entries ++ "\x7d"

/-- How a note differs from what was expected of it. -/
inductive NoteMismatch where
  | name (expected found : String)
  | file (expected found : String)
  | line (expected : Nat) (found : Option Nat)
  | noBreakpoints
  | breakpoints (expected found : Breakpoints)
  | fragment (expected found : String)

/-- The wording of a difference. -/
def NoteMismatch.message : NoteMismatch → String
  | .name expected found => s!"expected '{expected}', got '{found}'"
  | .file expected found => s!"expected file '{expected}', got '{found}'"
  | .line expected found =>
    s!"expected line {expected}, got " ++ found.elim "None" fun line => s!"Some({line})"
  | .noBreakpoints => "breakpoints expected on a non-breakpoint event"
  | .breakpoints expected found =>
    "expected breakpoints " ++ expected.text ++ ", got " ++ found.text
  | .fragment expected found => s!"expected message containing '{expected}', got '{found}'"

namespace NoteExpectation

/-- A note without a file counts as having an empty one. -/
def fileMismatch? (expectation : NoteExpectation) (note : Note) : Option NoteMismatch :=
  let found := note.file?.elim "" (·.text)
  (expectation.file.filter (· != found)).map (.file · found)

/-- A note without a line has none that could be expected. -/
def lineMismatch? (expectation : NoteExpectation) (note : Note) : Option NoteMismatch :=
  (expectation.line.filter (some · != note.line?)).map (.line · note.line?)

/-- Breakpoints can be expected only of notes that have some. -/
def breakpointsMismatch? (expectation : NoteExpectation) (note : Note) : Option NoteMismatch :=
  expectation.breakpoints.bind fun expected =>
    match note.breakpoints? with
    | none => some .noBreakpoints
    | some found => if expected = found then none else some (.breakpoints expected found)

/-- A note without a message counts as having an empty one. -/
def messageMismatch? (expectation : NoteExpectation) (note : Note) : Option NoteMismatch :=
  let found := note.message?.getD ""
  let missing (fragment : String) : Bool := !Text.occursIn fragment.toList found.toList
  (expectation.fragment.filter missing).map (.fragment · found)

/-- The first difference of a note from what is expected of it. -/
def mismatch? (expectation : NoteExpectation) (note : Note) : Option NoteMismatch :=
  if expectation.name ≠ note.name then some (.name expectation.name note.name)
  else
    expectation.fileMismatch? note <|> expectation.lineMismatch? note <|>
      expectation.breakpointsMismatch? note <|> expectation.messageMismatch? note

end NoteExpectation

/-- How a step differs from what was expected of it. -/
inductive StepMismatch where
  | count (expected : Nat) (found : List String)
  /-- A difference of the note at a position, counted from one. -/
  | note (position : Nat) (mismatch : NoteMismatch)
  | state (expected found : RunState)
  | typed (expected found : String)
  | interrupted (expected found : Bool)

/-- The wording of a difference. -/
def StepMismatch.message : StepMismatch → String
  | .count expected found =>
    s!"Expected {expected} event(s), got {found.length}: " ++ "[" ++ ", ".intercalate found ++ "]"
  | .note position mismatch => s!"event {position}: " ++ mismatch.message
  | .state expected found => s!"Expected state '{expected.name}', got '{found.name}'"
  | .typed expected found => s!"Expected command '{expected}', sent '{found}'"
  | .interrupted expected found => s!"Expected interrupted = {expected}, got {found}"

namespace FeedExpectation

/-- The first difference among notes that are as many as expected, the first of which
is at a given position. -/
def firstMismatch? (position : Nat) : List (NoteExpectation × Note) → Option StepMismatch
  | [] => none
  | (expectation, note) :: later =>
    match expectation.mismatch? note with
    | some mismatch => some (.note position mismatch)
    | none => firstMismatch? (position + 1) later

/-- The first difference of notes from the expected list, if one is given. -/
def notesMismatch? (expectation : FeedExpectation) (notes : List Note) : Option StepMismatch :=
  expectation.notes.bind fun expected =>
    if expected.length ≠ notes.length then some (.count expected.length (notes.map (·.name)))
    else firstMismatch? 1 (expected.zip notes)

/-- The first difference of what was observed from what is expected. -/
def mismatch? (expectation : FeedExpectation) (notes : List Note) (state : RunState) :
    Option StepMismatch :=
  expectation.notesMismatch? notes <|>
    (expectation.state.filter (· ≠ state)).map (.state · state)

end FeedExpectation

/-- The first difference of a typed line, and of whether the program was interrupted,
from what is expected. -/
def CommandExpectation.mismatch? (expectation : CommandExpectation) (typed : String)
    (interrupted : Bool) : Option StepMismatch :=
  (expectation.typed.filter (· ≠ typed)).map (.typed · typed) <|>
    (expectation.interrupted.filter (· ≠ interrupted)).map (.interrupted · interrupted)

end DebugConsole
