import DebugConsole.Path.Basic

/-!
# Clean paths

Resolving `.` and `..` on the text alone. A `..` takes back the component before
it; it stays where there is none to take back, that is, in front and behind the
root. A `..` that stayed is itself taken back by the next one.
-/

namespace DebugConsole.Path

/-- Appends one component to cleaned ones, which are given last first. -/
def appendComponent (cleaned : List Component) : Component → List Component
  | .current => cleaned
  | .parent =>
    match cleaned with
    | [] => [.parent]
    | .root :: _ => .parent :: cleaned
    | _ :: earlier => earlier
  | component => component :: cleaned

/-- The components left after taking back, in order. -/
def cleanComponents (components : List Component) : List Component :=
  (components.foldl appendComponent []).reverse

/-- The text of a component between separators. -/
def Component.part : Component → List Char
  | .root => []
  | .current => ['.']
  | .parent => ['.', '.']
  | .name text => text

/-- The text of components, with single separators and none at the end. -/
def write : List Component → List Char
  | .root :: components => '/' :: ['/'].intercalate (components.map Component.part)
  | components => ['/'].intercalate (components.map Component.part)

/-- The path with its `.` and `..` resolved on the text alone. -/
def clean (path : Path) : Path := ⟨String.ofList (write (cleanComponents path.components))⟩

end DebugConsole.Path
