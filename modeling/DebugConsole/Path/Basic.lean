/-!
# Paths

A path is a text; its components say which file it names. Two spellings of one
path differ only in empty and `.` components, and `Path.same` compares paths by
their components. A path is shown as it was written.
-/

namespace DebugConsole

/-- A path, as it was written. -/
structure Path where
  text : String
  deriving DecidableEq, Repr, Inhabited

namespace Path

/-- One step of a path. -/
inductive Component where
  | root
  | current
  | parent
  | name (text : List Char)
  deriving DecidableEq, Repr

/-- The component that a part between separators stands for. -/
def Component.ofPart? (part : List Char) : Option Component :=
  if part == [] || part == ['.'] then none
  else if part == ['.', '.'] then some .parent
  else some (.name part)

/-- Whether a text starts at the root. -/
def startsAtRoot (text : List Char) : Bool := text.head? == some '/'

/-- The components of a text. A `.` counts only where it is the first part. -/
def componentsOf (text : List Char) : List Component :=
  let parts := text.splitOn '/'
  let first :=
    if startsAtRoot text then [Component.root]
    else if parts.head? == some ['.'] then [.current]
    else []
  first ++ parts.filterMap Component.ofPart?

/-- The components of a path. -/
def components (path : Path) : List Component := componentsOf path.text.toList

/-- Whether two paths name the same file by their components. -/
def same (left right : Path) : Bool := left.components == right.components

/-- A path from the root. -/
def isAbsolute (path : Path) : Bool := startsAtRoot path.text.toList

/-- A path seen from a directory; an absolute path stays what it is. -/
def join (base path : Path) : Path :=
  if path.isAbsolute then path
  else
    let start := base.text.toList
    let separator := if start.isEmpty || start.getLast? == some '/' then [] else ['/']
    ⟨String.ofList (start ++ separator ++ path.text.toList)⟩

end Path

end DebugConsole
