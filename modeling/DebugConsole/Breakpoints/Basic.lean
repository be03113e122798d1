import DebugConsole.Entries
import DebugConsole.Path.Basic

/-!
# Breakpoints

The breakpoints of one file, by line, and those of all files that have been asked
for. Lines are kept as the texts that the debugger used for them. Files are told
apart by the components of their paths, so every spelling of a path leads to the
same breakpoints.
-/

namespace DebugConsole

/-- The ids of a file's breakpoints under the text of their line, in order of these
texts. -/
structure Breakpoints where
  entries : List (String × List String)
  ordered : Entries.Ordered entries

namespace Breakpoints

instance : DecidableEq Breakpoints := fun left right =>
  decidable_of_iff (left.entries = right.entries)
    ⟨fun same => by cases left; cases right; simp_all, fun same => same ▸ rfl⟩

/-- No breakpoints. -/
def empty : Breakpoints := ⟨[], Entries.ordered_nil⟩

/-- Sets the ids of one line. -/
def insert (breakpoints : Breakpoints) (line : String) (ids : List String) : Breakpoints :=
  ⟨Entries.insert line ids breakpoints.entries, breakpoints.ordered.insert line ids⟩

/-- The breakpoints given as pairs; of pairs with one line the last counts. -/
def ofPairs (pairs : List (String × List String)) : Breakpoints :=
  pairs.foldl (fun breakpoints pair => breakpoints.insert pair.1 pair.2) empty

/-- The ids under the text of a line. -/
def ids? (breakpoints : Breakpoints) (line : String) : Option (List String) :=
  breakpoints.entries.lookup line

/-- The ids at a line, the oldest first. -/
def atLine (breakpoints : Breakpoints) (line : Nat) : List String :=
  (breakpoints.ids? (toString line)).getD []

@[ext] theorem ext {left right : Breakpoints} (entries : left.entries = right.entries) :
    left = right := by
  cases left
  cases right
  simp_all

@[simp] theorem ids?_empty (line : String) : empty.ids? line = none := rfl

@[simp] theorem ids?_insert (breakpoints : Breakpoints) (line other : String)
    (ids : List String) :
    (breakpoints.insert line ids).ids? other =
      if other = line then some ids else breakpoints.ids? other :=
  Entries.lookup_insert breakpoints.entries line other ids

end Breakpoints

/-- The breakpoints last learned of each file. -/
structure BreakpointStore where
  files : List (Path × Breakpoints)

namespace BreakpointStore

/-- A store that knows no file. -/
def empty : BreakpointStore := ⟨[]⟩

/-- The breakpoints of a file, if any have been learned. -/
def get? (store : BreakpointStore) (file : Path) : Option Breakpoints :=
  (store.files.find? fun entry => entry.1.same file).map (·.2)

/-- Replaces what is known of a file. -/
def set (store : BreakpointStore) (file : Path) (breakpoints : Breakpoints) : BreakpointStore :=
  ⟨(file, breakpoints) :: store.files.filter fun entry => !entry.1.same file⟩

/-- The ids at a line of a file, the oldest first. -/
def lookup (store : BreakpointStore) (file : Path) (line : Nat) : List String :=
  ((store.get? file).map (·.atLine line)).getD []

@[simp] theorem get?_empty (file : Path) : empty.get? file = none := rfl

/-- Setting a file changes what is known of it under every spelling, and nothing
else. -/
@[simp] theorem get?_set (store : BreakpointStore) (file other : Path)
    (breakpoints : Breakpoints) :
    (store.set file breakpoints).get? other =
      if file.same other then some breakpoints else store.get? other := by
  unfold set get?
  simp only [List.find?_cons]
  by_cases same : file.same other = true
  · simp [same]
  · simp only [same, Bool.false_eq_true, if_false]
    rw [List.find?_filter]
    congr 2
    funext entry
    by_cases here : entry.1.same other = true
    · have apart : entry.1.same file = false := by
        simp only [Path.same, beq_iff_eq] at *
        simp only [here]
        exact beq_eq_false_iff_ne.mpr fun equal => same equal.symm
      simp [here, apart]
    · simp [here]

end BreakpointStore

end DebugConsole
