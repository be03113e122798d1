import DebugConsole.Path.Clean
import DebugConsole.Text.Blank
import DebugConsole.Text.Numeral

/-!
# Source locations

A position in a source file, and how the texts of a file name and of a line
number become one. A line is a positive number of 32 bits; nothing is coerced to
one, and each way to fail has its own `Location.Fault`.
-/

namespace DebugConsole

/-- A position in a source file. Lines count from one. -/
structure Location where
  file : Path
  line : Nat
  deriving DecidableEq, Repr

namespace Location

/-- The text of a location. -/
def text (location : Location) : String := s!"{location.file.text}:{location.line}"

/-- Why two texts are no location. -/
inductive Fault where
  | emptyFile
  | lineZero (file : String)
  | badLine (line file : String) (fault : Numeral.Fault)
  deriving DecidableEq, Repr

/-- The wording of a fault. -/
def Fault.message : Fault → String
  | .emptyFile => "empty file name"
  | .lineZero file => s!"line 0 in '{file}'"
  | .badLine line file fault => s!"invalid line '{line}' in '{file}': " ++ fault.message

/-- What is made of a printed file name: it is taken as printed, or resolved
against a directory and cleaned. -/
inductive Policy where
  | verbatim
  | absolute (base : Path)
  deriving DecidableEq, Repr

/-- The path for a printed file name. -/
def Policy.path (file : Path) : Policy → Path
  | .verbatim => file
  | .absolute base => (if file.isAbsolute then file else base.join file).clean

/-- The location that the texts of a file name and of a line number stand for.
White space around either is ignored. -/
def resolve (policy : Policy) (file line : List Char) : Except Fault Location :=
  let name := String.ofList (Text.trim file)
  if name.isEmpty then .error .emptyFile
  else
    match Numeral.read Numeral.largest32 (Text.trim line) with
    | .ok 0 => .error (.lineZero name)
    | .ok number => .ok ⟨policy.path ⟨name⟩, number⟩
    | .error fault => .error (.badLine (String.ofList line) name fault)

end Location

end DebugConsole
