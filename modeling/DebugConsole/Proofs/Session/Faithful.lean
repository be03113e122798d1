import DebugConsole.Proofs.Breakpoints.Listing
import DebugConsole.Proofs.Session.Calls
import Mathlib.Data.List.DropRight
import Mathlib.Data.List.Nodup

/-!
# Faithful debuggers

A faithful debugger keeps a `BreakpointTable`, in which no two breakpoints have one id. It
understands the lines that set and delete breakpoints, in its own spelling, and answers a
request for the breakpoints of a file with a listing of what it keeps. All else about it,
such as how it chooses ids and what it prints in front of a listing, is its `Manner`.
`Manner.surroundings` is such a debugger as the surroundings of a session.
-/

namespace DebugConsole

/-! ## The texts of lines -/

/-- The number that decimal digits stand for. -/
def lineNumber? (digits : List Char) : Option Nat :=
  if digits ≠ [] ∧ digits.all Char.isDigit then some (Nat.ofDigitChars 10 digits 0) else none

theorem lineNumber?_ofNat (line : Nat) : lineNumber? (Numeral.ofNat line) = some line := by
  rw [lineNumber?, if_pos ⟨Numeral.ofNat_ne_nil line,
    List.all_eq_true.mpr fun _ => Numeral.ofNat_isDigit⟩, Numeral.ofNat,
    Nat.ofDigitChars_ten_toDigits]

theorem lineNumber?_toString (line : Nat) : lineNumber? (toString line).toList = some line := by
  rw [Numeral.toList_toString, lineNumber?_ofNat]

theorem toString_injective : Function.Injective (toString : Nat → String) := by
  intro left right same
  have numbers := congrArg (fun text : String => lineNumber? text.toList) same
  simpa only [lineNumber?_toString, Option.some.injEq] using numbers

/-! ## The breakpoints kept -/

/-- A breakpoint that a debugger keeps. -/
structure Placed where
  id : String
  file : String
  line : Nat
  deriving DecidableEq

/-- The breakpoints that a debugger keeps, the oldest first, no two of them with one id. -/
structure BreakpointTable where
  placed : List Placed
  distinct : (placed.map Placed.id).Nodup

namespace BreakpointTable

variable (table : BreakpointTable)

/-- The ids in use. -/
def used : List String := table.placed.map Placed.id

/-- The ids at a line of a file, the oldest first. -/
def ids (file : String) (line : Nat) : List String :=
  (table.placed.filter fun placed => placed.file = file ∧ placed.line = line).map Placed.id

/-- The lines of a file that have breakpoints. -/
def lines (file : String) : List Nat :=
  (table.placed.filter fun placed => placed.file = file).map Placed.line

/-- The breakpoints of a file by line. -/
def listing (file : String) : Breakpoints :=
  .ofPairs ((table.lines file).map fun line => (toString line, table.ids file line))

/-- Sets a breakpoint under an id that is not in use. -/
def set (file : String) (line : Nat) (id : String) (unused : id ∉ table.used) :
    BreakpointTable where
  placed := table.placed ++ [⟨id, file, line⟩]
  distinct := by
    rw [List.map_append, List.nodup_append]
    refine ⟨table.distinct, List.nodup_singleton _, fun other member new same => ?_⟩
    obtain rfl : new = id := List.mem_singleton.mp same
    exact fun same => unused (same ▸ member)

/-- Deletes the breakpoint with an id. -/
def delete (id : String) : BreakpointTable where
  placed := table.placed.filter fun placed => placed.id ≠ id
  distinct := table.distinct.sublist (List.filter_sublist.map _)

theorem ids_set (file other : String) (line number : Nat) (id : String)
    (unused : id ∉ table.used) :
    (table.set file line id unused).ids other number =
      table.ids other number ++ if file = other ∧ line = number then [id] else [] := by
  by_cases here : file = other ∧ line = number <;> simp [ids, set, here]

theorem ids_delete (id file : String) (line : Nat) :
    (table.delete id).ids file line = (table.ids file line).filter (· ≠ id) := by
  simp only [ids, delete, List.filter_map, List.filter_filter, Function.comp_def]
  congr 2
  funext placed
  exact Bool.and_comm _ _

theorem nodup_ids (file : String) (line : Nat) : (table.ids file line).Nodup :=
  table.distinct.sublist (List.filter_sublist.map _)

theorem mem_ids {id file : String} {line : Nat} :
    id ∈ table.ids file line ↔ ⟨id, file, line⟩ ∈ table.placed := by
  constructor
  · intro member
    obtain ⟨⟨_, _, _⟩, inside, rfl⟩ := List.mem_map.mp member
    obtain ⟨kept, here⟩ := List.mem_filter.mp inside
    obtain ⟨rfl, rfl⟩ := of_decide_eq_true here
    exact kept
  · intro kept
    exact List.mem_map.mpr ⟨_, List.mem_filter.mpr ⟨kept, decide_eq_true ⟨rfl, rfl⟩⟩, rfl⟩

/-- An id stands at one place. -/
theorem place_unique {id file other : String} {line number : Nat}
    (here : id ∈ table.ids file line) (there : id ∈ table.ids other number) :
    (other, number) = (file, line) := by
  have same := List.inj_on_of_nodup_map table.distinct (table.mem_ids.mp there)
    (table.mem_ids.mp here) rfl
  rw [Placed.mk.injEq] at same
  exact Prod.ext same.2.1 same.2.2

theorem mem_lines {file : String} {line : Nat} :
    line ∈ table.lines file ↔ table.ids file line ≠ [] := by
  constructor
  · intro member
    obtain ⟨⟨id, _, _⟩, inside, rfl⟩ := List.mem_map.mp member
    obtain ⟨kept, here⟩ := List.mem_filter.mp inside
    obtain rfl := of_decide_eq_true here
    exact List.ne_nil_of_mem (table.mem_ids.mpr kept)
  · intro some
    obtain ⟨id, member⟩ := List.exists_mem_of_ne_nil _ some
    exact List.mem_map.mpr ⟨_, List.mem_filter.mpr ⟨table.mem_ids.mp member, decide_eq_true rfl⟩,
      rfl⟩

/-- A listing has the ids at each line. -/
theorem atLine_listing (file : String) (line : Nat) :
    (table.listing file).atLine line = table.ids file line := by
  rw [Breakpoints.atLine, listing, Breakpoints.ids?_ofPairs_map toString_injective]
  split
  · rfl
  · next absent =>
    rw [mem_lines, not_not] at absent
    exact absent.symm

/-- Each line of a listing is a number. -/
theorem ordinary_listing (file : String) :
    ∀ entry ∈ (table.listing file).entries, entry.1 ≠ Reply.errorName := by
  intro entry member
  obtain ⟨pair, inside, same⟩ := Breakpoints.exists_of_mem_ofPairs member
  obtain ⟨line, -, rfl⟩ := List.mem_map.mp inside
  exact same ▸ Reply.toString_ne_errorName line

end BreakpointTable

/-! ## Lines typed and requests -/

/-- What a debugger is told to do about breakpoints. -/
inductive BreakpointOrder where
  | set (file : String) (line : Nat)
  | delete (id : String)
  deriving DecidableEq

/-- Setting a breakpoint at a place, in which the last colon stands in front of the line. -/
def BreakpointOrder.ofPlace? (place : List Char) : Option BreakpointOrder :=
  let front := place.rdropWhile (· != ':')
  if front = [] then none
  else (lineNumber? (place.rtakeWhile (· != ':'))).map (.set (String.ofList front.dropLast))

/-- What a debugger takes a typed line for. -/
def Debugger.order? (debugger : Debugger) (typed : String) : Option BreakpointOrder :=
  match (debugger.translate "breakpoint" ++ " ").toList.isPrefixOf? typed.toList with
  | some place => BreakpointOrder.ofPlace? place
  | none =>
    ((debugger.translate "delete_breakpoints" ++ " ").toList.isPrefixOf? typed.toList).map
      fun id => .delete (String.ofList id)

/-- The file whose breakpoints are requested. -/
def requestedFile? (line : String) : Option String :=
  ("info-breakpoints ".toList.isPrefixOf? line.toList).bind fun rest =>
    (['\n'].isSuffixOf? rest).map String.ofList

theorem BreakpointOrder.ofPlace?_text (location : Location) :
    ofPlace? location.text.toList = some (.set location.file.text location.line) := by
  obtain ⟨⟨file⟩, line⟩ := location
  have spelled : (Location.text ⟨⟨file⟩, line⟩).toList =
      file.toList ++ [':'] ++ Numeral.ofNat line := by
    have joined : Location.text ⟨⟨file⟩, line⟩ = file ++ ":" ++ toString line := rfl
    rw [joined, String.toList_append, String.toList_append, Numeral.toList_toString]
    rfl
  have digits : ∀ character ∈ (Numeral.ofNat line).reverse, (character != ':') = true := by
    intro character member
    have digit := Numeral.ofNat_isDigit (List.mem_reverse.mp member)
    rw [bne_iff_ne]
    rintro rfl
    exact absurd digit (by decide)
  have front : (file.toList ++ [':'] ++ Numeral.ofNat line).rdropWhile (· != ':') =
      file.toList ++ [':'] := by
    rw [List.rdropWhile, List.reverse_append, List.dropWhile_append_of_pos digits]
    simp
  have behind : (file.toList ++ [':'] ++ Numeral.ofNat line).rtakeWhile (· != ':') =
      Numeral.ofNat line := by
    rw [List.rtakeWhile, List.reverse_append, List.takeWhile_append_of_pos digits]
    simp
  rw [spelled, ofPlace?, front, behind, lineNumber?_ofNat]
  simp

theorem isPrefixOf?_append (start rest : String) :
    start.toList.isPrefixOf? (start ++ rest).toList = some rest.toList := by
  rw [List.isPrefixOf?_eq_some_iff_append_eq, String.toList_append]

/-- A line that sets a breakpoint is understood. -/
theorem Debugger.order?_breakpoint (debugger : Debugger) (location : Location) :
    debugger.order? (debugger.translate "breakpoint" ++ " " ++ location.text) =
      some (.set location.file.text location.line) := by
  rw [order?, isPrefixOf?_append]
  exact BreakpointOrder.ofPlace?_text location

/-- A line that deletes a breakpoint is understood. -/
theorem Debugger.order?_delete (debugger : Debugger) (id : String) :
    debugger.order? (debugger.translate "delete_breakpoints" ++ " " ++ id) =
      some (.delete id) := by
  -- No debugger's words for the one command open those for the other.
  have other : (debugger.translate "breakpoint" ++ " ").toList.isPrefixOf?
      (debugger.translate "delete_breakpoints" ++ " " ++ id).toList = none := by
    have parted : (debugger.translate "delete_breakpoints" ++ " " ++ id).toList =
        (debugger.translate "delete_breakpoints" ++ " ").toList ++ id.toList :=
      String.toList_append
    rw [parted]
    cases debugger <;> rfl
  rw [order?, other, isPrefixOf?_append, Option.map_some, String.ofList_toList]

theorem requestedFile?_request (file : Path) :
    requestedFile? (Breakpoints.request file) = some file.text := by
  have parted : Breakpoints.request file = "info-breakpoints " ++ (file.text ++ "\n") :=
    String.append_assoc
  have ended : ['\n'].isSuffixOf? (file.text ++ "\n").toList = some file.text.toList := by
    rw [List.isSuffixOf?_eq_some_iff_append_eq, String.toList_append]
    rfl
  rw [requestedFile?, parted, isPrefixOf?_append, Option.bind_some, ended, Option.map_some,
    String.ofList_toList]

/-! ## The debugger -/

/-- All about a faithful debugger that its breakpoints do not settle. -/
structure Manner (Hidden : Type) where
  /-- The id of the next breakpoint. -/
  newId : BreakpointTable → Hidden → String
  newId_unused : ∀ table hidden, newId table hidden ∉ table.used
  /-- What is printed in front of a listing. -/
  noise : Hidden → List Char
  noise_braceless : ∀ hidden, '{' ∉ noise hidden
  /-- What becomes of the rest of the debugger's state behind a call. -/
  next : Call → BreakpointTable → Hidden → Hidden

/-- The state of a faithful debugger: its breakpoints, and all the rest. -/
structure DebuggerState (Hidden : Type) where
  table : BreakpointTable
  hidden : Hidden

namespace Manner

variable {Hidden : Type} (manner : Manner Hidden)

/-- The breakpoints after an order. -/
def follow (state : DebuggerState Hidden) : Option BreakpointOrder → BreakpointTable
  | none => state.table
  | some (.set file line) =>
    state.table.set file line (manner.newId state.table state.hidden) (manner.newId_unused _ _)
  | some (.delete id) => state.table.delete id

/-- The answer to a request: a listing if breakpoints are requested. -/
def answer (state : DebuggerState Hidden) (line : String) : Answer :=
  match requestedFile? line with
  | some file => .text (String.ofList
      (manner.noise state.hidden ++ (Json.ofBreakpoints (state.table.listing file)).writeChars))
  | none => .silence

/-- A state with some breakpoints behind a call. -/
def behind (call : Call) (state : DebuggerState Hidden) (table : BreakpointTable) :
    DebuggerState Hidden :=
  ⟨table, manner.next call table state.hidden⟩

/-- A faithful debugger behind a terminal that accepts every call. -/
def surroundings (debugger : Debugger) : Surroundings (DebuggerState Hidden) where
  request line := fun state =>
    (manner.answer state line, manner.behind (.request line) state state.table)
  sendLine line := fun state =>
    (.ok (), manner.behind (.sendLine line) state (manner.follow state (debugger.order? line)))
  interrupt := fun state => (.ok (), manner.behind .interrupt state state.table)

/-- A request is answered by what the debugger keeps. -/
theorem answer_request (state : DebuggerState Hidden) (file : Path) :
    (manner.answer state (Breakpoints.request file)).breakpoints =
      .ok (state.table.listing file.text) := by
  rw [answer, requestedFile?_request, Answer.breakpoints,
    Reply.read_listing (manner.noise_braceless _) (state.table.ordinary_listing _)]

/-- The largest number that is an id. -/
def highest (table : BreakpointTable) : Nat :=
  (table.used.filterMap fun id => lineNumber? id.toList).max?.getD 0

theorem le_highest {table : BreakpointTable} {number : Nat}
    (member : toString number ∈ table.used) : number ≤ highest table :=
  List.le_max?_getD_of_mem (List.mem_filterMap.mpr ⟨_, member, lineNumber?_toString number⟩)

/-- Ids are numbers, each one more than the largest so far, and a listing stands behind a
blank and a backspace. -/
def numbering : Manner Nat where
  newId table largest := toString (max largest (highest table) + 1)
  newId_unused table largest := fun member => by
    have := le_highest member
    omega
  noise _ := [' ', '\x08']
  noise_braceless _ := by decide
  next _ table largest := max largest (highest table)

end Manner

end DebugConsole
