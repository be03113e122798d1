import DebugConsole.Breakpoints.Basic
import DebugConsole.Json.Writer
import DebugConsole.Location

/-!
# Notes

What an editor is told during a session, and its written form: one JSON object on
one line for each note.
-/

namespace DebugConsole

/-- Something that an editor is told. -/
inductive Note where
  /-- The program stopped at a location. -/
  | jump (location : Location)
  /-- The program goes on. -/
  | resumed
  /-- The program is gone. -/
  | terminated
  /-- The breakpoints of a file, in place of those shown before. -/
  | breakpointsUpdated (file : Path) (breakpoints : Breakpoints)
  /-- The debugger refused to list the breakpoints of a file. -/
  | queryError (file : Path) (message : String)
  /-- So many bytes of output were given up. -/
  | stalled (discarded : Nat)
  deriving DecidableEq

namespace Note

/-- The name of a note. -/
def name : Note → String
  | .jump _ => "jump"
  | .resumed => "resumed"
  | .terminated => "terminated"
  | .breakpointsUpdated _ _ => "breakpoints_updated"
  | .queryError _ _ => "query_error"
  | .stalled _ => "stalled"

/-- The file that a note is about. -/
def file? : Note → Option Path
  | .jump location => some location.file
  | .breakpointsUpdated file _ => some file
  | .queryError file _ => some file
  | _ => none

/-- The line that a note is about. -/
def line? : Note → Option Nat
  | .jump location => some location.line
  | _ => none

/-- The message of a note. -/
def message? : Note → Option String
  | .queryError _ message => some message
  | _ => none

/-- The breakpoints of a note. -/
def breakpoints? : Note → Option Breakpoints
  | .breakpointsUpdated _ breakpoints => some breakpoints
  | _ => none

end Note

/-- A list of ids as a JSON value. -/
def Json.ofIds (ids : List String) : Json := .array (ids.map .string)

/-- Breakpoints as a JSON value. -/
def Json.ofBreakpoints (breakpoints : Breakpoints) : Json :=
  .object (breakpoints.entries.map fun entry => (entry.1, .ofIds entry.2))

/-- A whole number as a JSON value. -/
def Json.ofNat (value : Nat) : Json := .number (.whole value)

/-- What a note says beside its name. -/
def Note.members : Note → List (String × Json)
  | .jump location =>
    [("file", .string location.file.text), ("line", .ofNat location.line)]
  | .resumed | .terminated => []
  | .breakpointsUpdated file breakpoints =>
    [("file", .string file.text), ("breakpoints", .ofBreakpoints breakpoints)]
  | .queryError file message => [("file", .string file.text), ("message", .string message)]
  | .stalled discarded => [("discarded", .ofNat discarded)]

/-- A note as a JSON value. -/
def Note.json (note : Note) : Json := .object (("event", .string note.name) :: note.members)

/-- A note on a line of its own. -/
def Note.text (note : Note) : String := note.json.write ++ "\n"

end DebugConsole
