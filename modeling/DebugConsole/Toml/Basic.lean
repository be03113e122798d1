/-!
# TOML documents

The values of a TOML document, and how tables grow while one is read. A table
remembers how it came about, since that decides whether it may be opened or
extended once more: by a header of its own, on the way to a deeper header, by a
dotted key, or written out in one piece.
-/

namespace DebugConsole

/-- How a table came about. -/
inductive Toml.Origin where
  | header
  | implied
  | dotted
  | inline
  deriving DecidableEq, Repr

/-- A TOML value. Fractional numbers and dates are only recognised. -/
inductive Toml where
  | string (value : String)
  | integer (value : Int)
  | float
  | boolean (value : Bool)
  | date
  | array (elements : List Toml)
  | table (origin : Toml.Origin) (entries : List (String × Toml))
  /-- The tables of one name that have a header each. -/
  | tables (elements : List (List (String × Toml)))
  deriving Repr, Inhabited

namespace Toml

/-- Keys and their values, in the order in which the keys first appear. -/
abbrev Entries := List (String × Toml)

/-- Whether a table may still be opened by its own header or extended by dotted
keys. -/
def Origin.isOpen : Origin → Bool
  | .implied | .dotted => true
  | .header | .inline => false

/-- Puts a value under a key, in place of what was there. -/
def put (key : String) (value : Toml) : Entries → Entries
  | [] => [(key, value)]
  | (other, held) :: later =>
    if other = key then (key, value) :: later else (other, held) :: put key value later

/-- Changes what stands under a key. -/
def alter (key : String) (entries : Entries) (change : Option Toml → Option Toml) :
    Option Entries :=
  (change (entries.lookup key)).map fun value => put key value entries

/-- Changes the last of several tables, of which there is at least one. -/
def alterLast (change : Entries → Option Entries) : List Entries → Option (List Entries)
  | [] => none
  | [last] => (change last).map fun changed => [changed]
  | first :: later => (alterLast change later).map (first :: ·)

/-- Acts on the table that a header's path leads to, creating the tables on the way. -/
def alterAt (change : Entries → Option Entries) : (path : List String) → Entries → Option Entries
  | [], entries => change entries
  | key :: path, entries =>
    alter key entries fun
      | none => (alterAt change path []).map (.table .implied)
      | some (.table .inline _) => none
      | some (.table origin held) => (alterAt change path held).map (.table origin)
      | some (.tables elements) => (alterLast (alterAt change path) elements).map .tables
      | some _ => none

/-- Opens the table of a header `[path.key]`. -/
def openTable (path : List String) (key : String) (root : Entries) : Option Entries :=
  alterAt (fun entries => alter key entries fun
    | none => some (.table .header [])
    | some (.table .implied held) => some (.table .header held)
    | some _ => none) path root

/-- Opens a further table of a header `[[path.key]]`. -/
def openFurther (path : List String) (key : String) (root : Entries) : Option Entries :=
  alterAt (fun entries => alter key entries fun
    | none => some (.tables [[]])
    | some (.tables elements) => some (.tables (elements ++ [[]]))
    | some _ => none) path root

/-- Adds a new key to a table that came about in a given way. A simple key belongs
into a table that has a place of its own; a table made by dotted keys takes only
keys with dots. -/
def addKey (key : String) (value : Toml) : (path : List String) → Origin → Entries →
    Option Entries
  | [], origin, entries =>
    if origin = .dotted ∨ (entries.lookup key).isSome then none
    else some (entries ++ [(key, value)])
  | [last], _, entries =>
    alter last entries fun
      | none => some (.table .dotted [(key, value)])
      | some (.table .dotted held) =>
        if (held.lookup key).isSome then none else some (.table .dotted (held ++ [(key, value)]))
      | some _ => none
  | step :: path, _, entries =>
    alter step entries fun
      | none => (addKey key value path .dotted []).map (.table .dotted)
      | some (.table origin held) =>
        if origin.isOpen then (addKey key value path origin held).map (.table origin) else none
      | some (.tables elements) =>
        (alterLast (addKey key value path .header) elements).map .tables
      | some _ => none

end Toml

end DebugConsole
