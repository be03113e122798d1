import DebugConsole.Error
import DebugConsole.Toml.Reader

/-!
# Settings

The user's settings: bounds on buffered output, how long to wait for the proxy, and
for each debugger whether and from where its paths are made absolute. Everything has
a standard value, and what the settings do not know is passed over.
-/

namespace DebugConsole

/-- What is set for one debugger. -/
structure Override where
  /-- Whether locations are made absolute, if that is set. -/
  absolutePaths : Option Bool
  /-- Where relative paths start, if that is set. -/
  baseDirectory : Option Path
  deriving DecidableEq, Repr

/-- Nothing is set. -/
def Override.none : Override := ⟨Option.none, Option.none⟩

/-- A user's settings. -/
structure Settings where
  bounds : Bounds
  /-- How long to wait for the proxy, in milliseconds. -/
  timeout : Nat
  /-- What is set for debuggers, by name. -/
  overrides : List (String × Override)
  deriving DecidableEq, Repr

namespace Settings

/-- The settings where none are made. -/
def standard : Settings := ⟨.standard, 500, []⟩

/-! ## Reading -/

/-- The members of a group of settings. It may also be written as a list of its
values in their fixed order; a date counts as a group in which nothing is known. -/
def members? (names : List String) : Toml → Option Toml.Entries
  | .table _ entries => some entries
  | .array elements => some (names.zip elements)
  | .tables elements => some (names.zip (elements.map (.table .header)))
  | .date => some []
  | _ => none

/-- A number of settings that is not negative. -/
def natural? : Toml → Option Nat
  | .integer value => if 0 ≤ value then some value.toNat else none
  | _ => none

/-- A path of settings. -/
def path? : Toml → Option Path
  | .string text => some ⟨text⟩
  | _ => none

/-- A switch of settings. -/
def switch? : Toml → Option Bool
  | .boolean value => some value
  | _ => none

/-- Reads a member if it is there; it may not be there and be of the wrong kind. -/
def optional? {Value : Type} (read : Toml → Option Value) (name : String)
    (entries : Toml.Entries) : Option (Option Value) :=
  match entries.lookup name with
  | none => some none
  | some value => (read value).map some

/-- Whether a group is written as a list of values. -/
def isList : Toml → Bool
  | .array _ | .tables _ => true
  | _ => false

/-- Reads what is set for a debugger. A list must give both values. -/
def override? (value : Toml) : Option Override := do
  let entries ← members? ["absolute_paths", "base_dir"] value
  if isList value && entries.length < 2 then none
  some ⟨← optional? switch? "absolute_paths" entries, ← optional? path? "base_dir" entries⟩

/-- Reads the group with a given name; nothing is set in one that is not there. -/
def group? (names : List String) (name : String) (document : Toml.Entries) :
    Option Toml.Entries :=
  match document.lookup name with
  | none => some []
  | some value => members? names value

/-- Reads what is set for debuggers. -/
def overrides? (document : Toml.Entries) : Option (List (String × Override)) :=
  match document.lookup "backends" with
  | none => some []
  | some (.table _ entries) =>
    entries.mapM fun entry => (override? entry.2).map fun override => (entry.1, override)
  | some _ => none

/-- Reads the settings of a document. -/
def ofDocument? (document : Toml.Entries) : Option Settings := do
  let parser ← group? ["buffer_limit", "keep_tail"] "parser" document
  let proxy ← group? ["timeout_ms"] "proxy" document
  let limit ← optional? natural? "buffer_limit" parser
  let tail ← optional? natural? "keep_tail" parser
  let timeout ← optional? natural? "timeout_ms" proxy
  let overrides ← overrides? document
  some ⟨⟨limit.getD standard.bounds.maxBytes, tail.getD standard.bounds.keepTail⟩,
    timeout.getD standard.timeout, overrides⟩

/-- Checks settings: there must be room for output, more than is kept of it, and only
debuggers that exist may be named. -/
def check (settings : Settings) : Except Error Settings :=
  let ⟨limit, tail⟩ := settings.bounds
  if limit = 0 then .error (.badSettings "parser.buffer_limit must be positive")
  else if limit ≤ tail then
    .error (.badSettings
      s!"parser.keep_tail ({tail}) must be smaller than parser.buffer_limit ({limit})")
  else
    match settings.overrides.find? fun entry => (Debugger.ofName? entry.1).isNone with
    | some (name, _) => .error (.unknownDebugger name)
    | none => .ok settings

/-- Reads the text of a user's settings. -/
def read (text : String) : Except Error Settings :=
  match (Toml.read text).bind ofDocument? with
  | some settings => settings.check
  | none => .error .unreadableSettings

/-! ## Use -/

/-- How the output of a debugger is to be read. Paths that are made absolute start
in the working directory unless something else is set. -/
def options (settings : Settings) (workingDirectory : Path) (debugger : Debugger) :
    Debugger.Options :=
  let override := (settings.overrides.lookup debugger.name).getD .none
  let policy : Location.Policy :=
    if override.absolutePaths.getD debugger.wantsAbsolutePaths then
      .absolute (override.baseDirectory.getD workingDirectory)
    else .verbatim
  ⟨policy, settings.bounds⟩

end Settings

end DebugConsole
