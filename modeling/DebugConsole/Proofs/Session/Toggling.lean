import DebugConsole.Proofs.Session.Faithful

/-!
# Toggling against a faithful debugger

A session that knows the breakpoints of a file as its debugger keeps them toggles a
breakpoint there and asks again. Both agree afterwards, and the debugger has deleted the
newest breakpoint of the line, or set one if it had none (`Session.round`). So toggling
again and again empties the line and then sets and deletes a single breakpoint by turns,
and nothing else changes (`Session.toggling_in_sync`).
-/

namespace DebugConsole

/-- One toggle at a line of a file: the newest id goes, or a new one comes if there was
none. -/
structure BreakpointTable.Toggles (before after : BreakpointTable) (file : String) (line : Nat) :
    Prop where
  removes : before.ids file line ≠ [] → after.ids file line = (before.ids file line).dropLast
  adds : before.ids file line = [] → ∃ id, id ∉ before.used ∧ after.ids file line = [id]
  others : ∀ other number, (other, number) ≠ (file, line) →
    after.ids other number = before.ids other number

namespace BreakpointTable

variable {table : BreakpointTable} {file : String} {line : Nat}

/-- Deleting the newest id of a line toggles it. -/
theorem toggles_delete {id : String} (newest : (table.ids file line).getLast? = some id) :
    table.Toggles (table.delete id) file line where
  removes some := by
    obtain ⟨earlier, parted⟩ := List.getLast?_eq_some_iff.mp newest
    have distinct : (earlier ++ [id]).Nodup := parted ▸ table.nodup_ids file line
    have kept : ∀ other ∈ earlier, decide (other ≠ id) = true := by
      intro other member
      exact decide_eq_true fun same =>
        (List.nodup_append.mp distinct).2.2 other member id List.mem_cons_self same
    rw [ids_delete, parted, List.filter_append, List.filter_eq_self.mpr kept,
      List.dropLast_concat]
    simp
  adds none := by simp [none] at newest
  others other number apart := by
    rw [ids_delete, List.filter_eq_self]
    intro candidate member
    refine decide_eq_true fun same => apart ?_
    exact table.place_unique (List.mem_of_getLast? newest) (same ▸ member)

/-- Setting a breakpoint at a line that has none toggles it. -/
theorem toggles_set {id : String} (none : table.ids file line = []) (unused : id ∉ table.used) :
    table.Toggles (table.set file line id unused) file line where
  removes some := absurd none some
  adds _ := ⟨id, unused, by rw [ids_set, none, if_pos ⟨rfl, rfl⟩]; rfl⟩
  others other number apart := by
    rw [ids_set, if_neg fun here => apart (Prod.ext here.1.symm here.2.symm), List.append_nil]

section Sequence

variable {tables : Nat → BreakpointTable}
  (toggles : ∀ count, (tables count).Toggles (tables (count + 1)) file line)
include toggles

/-- A line that is toggled again and again loses its ids from the newest on. -/
theorem ids_of_toggles {count : Nat} (few : count ≤ ((tables 0).ids file line).length) :
    (tables count).ids file line =
      ((tables 0).ids file line).take (((tables 0).ids file line).length - count) := by
  induction count with
  | zero => rw [Nat.sub_zero, List.take_length]
  | succ count inductionHypothesis =>
    have before := inductionHypothesis (by omega)
    have some : (tables count).ids file line ≠ [] := by
      rw [before, ← List.length_pos_iff, List.length_take]
      omega
    rw [(toggles count).removes some, before, List.dropLast_eq_take, List.take_take,
      List.length_take]
    congr 1
    omega

/-- A line that has lost all its ids has one and none by turns. -/
theorem length_ids_of_toggles {count : Nat}
    (many : ((tables 0).ids file line).length ≤ count) :
    ((tables count).ids file line).length =
      (count - ((tables 0).ids file line).length) % 2 := by
  induction count, many using Nat.le_induction with
  | base => rw [ids_of_toggles toggles (Nat.le_refl _), Nat.sub_self, List.take_zero]; rfl
  | succ count many inductionHypothesis =>
    by_cases none : (tables count).ids file line = []
    · obtain ⟨id, -, new⟩ := (toggles count).adds none
      rw [none, List.length_nil] at inductionHypothesis
      rw [new, List.length_singleton]
      omega
    · have some := List.length_pos_iff.mpr none
      rw [(toggles count).removes none, List.length_dropLast]
      omega

/-- Nothing changes at other lines. -/
theorem ids_of_toggles_elsewhere {other : String} {number : Nat}
    (apart : (other, number) ≠ (file, line)) (count : Nat) :
    (tables count).ids other number = (tables 0).ids other number := by
  induction count with
  | zero => rfl
  | succ count inductionHypothesis =>
    rw [(toggles count).others other number apart, inductionHypothesis]

end Sequence

end BreakpointTable

/-- The line that a call types. -/
def Call.typed? : Call → Option String
  | .sendLine line => some line
  | .request _ | .interrupt => none

namespace Session

/-- A session knows the breakpoints of a file as a debugger keeps them. -/
def InSync (session : Session) (table : BreakpointTable) (file : Path) : Prop :=
  ∀ line, session.store.lookup file line = table.ids file.text line

theorem inSync_of_listed {session : Session} {table : BreakpointTable} {file : Path}
    (listed : session.store.get? file = some (table.listing file.text)) :
    session.InSync table file := by
  intro line
  rw [BreakpointStore.lookup, listed]
  exact table.atLine_listing file.text line

variable {Hidden : Type} (manner : Manner Hidden) {session : Session} {file : Path}
  {state : DebuggerState Hidden}

/-- What the session types to toggle a breakpoint is understood as that. -/
theorem toggleLine_toggles (sync : session.InSync state.table file) (line : Nat) :
    state.table.Toggles
      (manner.follow state (session.debugger.order? (session.toggleLine file line)))
      file.text line := by
  unfold toggleLine
  rw [sync line]
  cases newest : (state.table.ids file.text line).getLast? with
  | some id =>
    dsimp only
    rw [session.debugger.order?_delete]
    exact BreakpointTable.toggles_delete newest
  | none =>
    dsimp only
    rw [session.debugger.order?_breakpoint]
    exact BreakpointTable.toggles_set (List.getLast?_eq_none_iff.mp newest) (manner.newId_unused _ _)

/-- What a toggle and a refresh leave behind of a session and of its debugger's
breakpoints. -/
structure Round (session : Session) (table : BreakpointTable) (after : Session)
    (table' : BreakpointTable) (file : Path) (line : Nat) : Prop where
  debugger : after.debugger = session.debugger
  toggles : table.Toggles table' file.text line
  listed : after.store.get? file = some (table'.listing file.text)
  others : ∀ other, file.same other = false → after.store.get? other = session.store.get? other

theorem Round.inSync {session after : Session} {table table' : BreakpointTable} {file : Path}
    {line : Nat} (round : session.Round table after table' file line) :
    after.InSync table' file :=
  inSync_of_listed round.listed

variable (session state)

/-- An interrupt changes no breakpoints and types nothing. -/
theorem interruptIfRunning_faithful (debugger : Debugger) (calls : List Call) :
    ∃ made asked, session.interruptIfRunning (manner.surroundings debugger).recorded
        (calls, state) = (.ok (), calls ++ made, asked) ∧
      asked.table = state.table ∧ made.filterMap Call.typed? = [] := by
  unfold interruptIfRunning
  split
  · exact ⟨[.interrupt], _, rfl, rfl, rfl⟩
  · exact ⟨[], state, by rw [List.append_nil]; rfl, rfl, rfl⟩

/-- A toggle types its line, and the debugger follows it. -/
theorem toggle_faithful (debugger : Debugger) (file : Path) (line : Nat) (calls : List Call) :
    ∃ made asked after,
      session.toggle (manner.surroundings debugger).recorded file line (calls, state) =
        ((.ok (), { session with
          watched := some file, lastCommand := some (session.toggleLine file line) }),
          calls ++ made, after) ∧
      asked.table = state.table ∧
      after.table = manner.follow asked (debugger.order? (session.toggleLine file line)) ∧
      made.filterMap Call.typed? = [session.toggleLine file line] := by
  obtain ⟨made, asked, interrupted, same, untyped⟩ :=
    session.interruptIfRunning_faithful manner state debugger calls
  let typed := session.toggleLine file line
  refine ⟨made ++ [.sendLine typed], asked,
    manner.behind (.sendLine typed) asked (manner.follow asked (debugger.order? typed)),
    ?_, same, rfl, ?_⟩
  · simp only [toggle, bind, StateT.bind, interrupted]
    rw [← List.append_assoc]
    rfl
  · rw [List.filterMap_append, untyped]
    rfl

/-- A refresh learns what the debugger keeps, and types nothing. -/
theorem refresh_faithful {session : Session} {file : Path} (watched : session.watched = some file)
    (debugger : Debugger) (calls : List Call) :
    ∃ notes made after,
      session.refresh (manner.surroundings debugger).recorded (calls, state) =
        ((notes, { session with store := session.store.set file (state.table.listing file.text) }),
          calls ++ made, after) ∧
      after.table = state.table ∧ made.filterMap Call.typed? = [] := by
  have queried := BreakpointStore.query_eq
    (show (manner.surroundings debugger).recorded.request (Breakpoints.request file)
      (calls, state) = (manner.answer state (Breakpoints.request file), _, _) from rfl)
    session.store
  rw [manner.answer_request] at queried
  exact ⟨_, [.request (Breakpoints.request file)], _, refresh_eq watched queried, rfl, rfl⟩

/-- A toggle and a refresh toggle the breakpoint, in step with the debugger. -/
theorem round {session : Session} {file : Path} (sync : session.InSync state.table file)
    (line : Nat) (calls : List Call) :
    let run := session.performAll (manner.surroundings session.debugger).recorded
      [.toggle file line, .refresh] (calls, state)
    session.Round state.table run.1.2 run.2.2.table file line ∧
      run.2.1.filterMap Call.typed? =
        calls.filterMap Call.typed? ++ [session.toggleLine file line] := by
  intro run
  let between : Session := { session with
    watched := some file, lastCommand := some (session.toggleLine file line) }
  have watched : between.watched = some file := rfl
  obtain ⟨made, asked, toggled, performed, same, followed, typed⟩ :=
    session.toggle_faithful manner state session.debugger file line calls
  obtain ⟨notes, made', after, refreshed, kept, untyped⟩ :=
    refresh_faithful manner toggled watched session.debugger (calls ++ made)
  have run_eq : run = (([[], notes], { between with
      store := session.store.set file (toggled.table.listing file.text) }),
      calls ++ made ++ made', after) := by
    have first : session.perform (manner.surroundings session.debugger).recorded
        (.toggle file line) (calls, state) = (([], between), calls ++ made, toggled) := by
      simp only [perform, bind, StateT.bind, performed]
      rfl
    have second : between.perform (manner.surroundings session.debugger).recorded .refresh
        (calls ++ made, toggled) = _ := refreshed
    show session.performAll _ _ _ = _
    rw [performAll_cons, first]
    dsimp only
    rw [performAll_cons, second]
    rfl
  have toggles : state.table.Toggles after.table file.text line := by
    rw [kept, followed, ← same]
    exact toggleLine_toggles manner (same ▸ sync) line
  rw [run_eq]
  refine ⟨⟨rfl, toggles, ?_, fun other apart => ?_⟩, ?_⟩
  · rw [kept, BreakpointStore.get?_set, Path.same, beq_self_eq_true, if_pos rfl]
  · rw [BreakpointStore.get?_set, if_neg (Bool.eq_false_iff.mp apart)]
  · rw [List.filterMap_append, List.filterMap_append, typed, untyped, List.append_nil]

/-! ## Again and again -/

/-- A toggle and a refresh, so many times. -/
def rounds (file : Path) (line count : Nat) : List Operation :=
  (List.replicate count [.toggle file line, .refresh]).flatten

/-- What becomes of a session and its debugger in so many rounds. -/
def afterRounds (session : Session) (file : Path) (line count : Nat) :
    (List (List Note) × Session) × List Call × DebuggerState Hidden :=
  session.performAll (manner.surroundings session.debugger).recorded (rounds file line count)
    ([], state)

theorem afterRounds_succ (session : Session) (file : Path) (line count : Nat) :
    let run := session.afterRounds manner state file line count
    let round := run.1.2.performAll (manner.surroundings session.debugger).recorded
      [.toggle file line, .refresh] run.2
    (session.afterRounds manner state file line (count + 1)).1.2 = round.1.2 ∧
      (session.afterRounds manner state file line (count + 1)).2 = round.2 := by
  have rounds_succ : rounds file line (count + 1) =
      rounds file line count ++ [.toggle file line, .refresh] := by
    rw [rounds, List.replicate_succ', List.flatten_append, List.flatten_singleton]
    rfl
  unfold afterRounds
  rw [rounds_succ, performAll_append]
  exact ⟨rfl, rfl⟩

/-- Each round of a run toggles the breakpoint, if it finds the session and its debugger in
step. -/
theorem afterRounds_step {session : Session} {file : Path} {line count : Nat}
    (same : (session.afterRounds manner state file line count).1.2.debugger = session.debugger)
    (sync : (session.afterRounds manner state file line count).1.2.InSync
      (session.afterRounds manner state file line count).2.2.table file) :
    let run := session.afterRounds manner state file line
    (run count).1.2.Round (run count).2.2.table (run (count + 1)).1.2
        (run (count + 1)).2.2.table file line ∧
      (run (count + 1)).2.1.filterMap Call.typed? =
        (run count).2.1.filterMap Call.typed? ++ [(run count).1.2.toggleLine file line] := by
  intro run
  obtain ⟨after, world⟩ := session.afterRounds_succ manner state file line count
  have next := round manner (run count).2.2 sync line (run count).2.1
  rw [same] at next
  simp only [run, after, world]
  exact next

/-- The session and its debugger stay in step. -/
theorem afterRounds_inSync {session : Session} {file : Path}
    (sync : session.InSync state.table file) (line count : Nat) :
    (session.afterRounds manner state file line count).1.2.debugger = session.debugger ∧
      (session.afterRounds manner state file line count).1.2.InSync
        (session.afterRounds manner state file line count).2.2.table file := by
  induction count with
  | zero => exact ⟨rfl, sync⟩
  | succ count inductionHypothesis =>
    obtain ⟨same, sync⟩ := inductionHypothesis
    obtain ⟨round, -⟩ := afterRounds_step manner state same sync
    exact ⟨round.debugger.trans same, round.inSync⟩

/-- Toggling keeps step with a faithful debugger. Let a session know the breakpoints of a
file as its debugger keeps them, and toggle a line of the file and refresh as often as one
likes. The session knows the breakpoints of the file throughout, from the first refresh on
as the listing of what the debugger keeps. Each round deletes the newest id of the line if
it has one and sets a new one otherwise; so the ids go one after the other, from the newest
on, and then there is one and none by turns. No other line and no other file is touched,
with the debugger or with the session, and each round types one line, that of the toggle. -/
theorem toggling_in_sync {session : Session} {file : Path}
    (sync : session.InSync state.table file) (line count : Nat) :
    let run := session.afterRounds manner state file line
    let table count := (run count).2.2.table
    let start := state.table.ids file.text line
    ((run count).1.2.InSync (table count) file ∧
      (0 < count → (run count).1.2.store.get? file = some ((table count).listing file.text))) ∧
    ((table count).Toggles (table (count + 1)) file.text line ∧
      (count ≤ start.length →
        (table count).ids file.text line = start.take (start.length - count)) ∧
      (start.length ≤ count →
        ((table count).ids file.text line).length = (count - start.length) % 2)) ∧
    ((∀ other number, (other, number) ≠ (file.text, line) →
        (table count).ids other number = state.table.ids other number) ∧
      ∀ other, file.same other = false →
        (run count).1.2.store.get? other = session.store.get? other) ∧
    (run count).2.1.filterMap Call.typed? =
      (List.range count).map fun earlier => (run earlier).1.2.toggleLine file line := by
  intro run table start
  have inSync (count : Nat) := afterRounds_inSync manner state sync line count
  have step (count : Nat) := afterRounds_step manner state (inSync count).1 (inSync count).2
  have toggles (count : Nat) : (table count).Toggles (table (count + 1)) file.text line :=
    (step count).1.toggles
  have others (count : Nat) (other : Path) (apart : file.same other = false) :
      (run count).1.2.store.get? other = session.store.get? other := by
    induction count with
    | zero => rfl
    | succ count inductionHypothesis =>
      exact ((step count).1.others other apart).trans inductionHypothesis
  have typed (count : Nat) : (run count).2.1.filterMap Call.typed? =
      (List.range count).map fun earlier => (run earlier).1.2.toggleLine file line := by
    induction count with
    | zero => rfl
    | succ count inductionHypothesis =>
      rw [List.range_succ, List.map_append, ← inductionHypothesis]
      exact (step count).2
  refine ⟨⟨(inSync count).2, fun positive => ?_⟩, ⟨toggles count,
    BreakpointTable.ids_of_toggles toggles, BreakpointTable.length_ids_of_toggles toggles⟩,
    ⟨fun other number apart => BreakpointTable.ids_of_toggles_elsewhere toggles apart count,
      others count⟩, typed count⟩
  obtain ⟨earlier, rfl⟩ := Nat.exists_eq_add_of_lt positive
  rw [Nat.zero_add]
  exact (step earlier).1.listed

/-- A debugger that numbers its breakpoints: two of a line go, then one with the next number
comes and goes, and another file keeps the breakpoint that it has on this line. -/
theorem toggling_in_sync_counting :
    let file : Path := ⟨"/a/b.c"⟩
    let table : BreakpointTable :=
      ⟨[⟨"1", file.text, 7⟩, ⟨"2", file.text, 7⟩, ⟨"3", "/a/x:y.c", 7⟩], by decide⟩
    let session := { start .lldb .standard with
      store := BreakpointStore.empty.set file (table.listing file.text) }
    let run := session.afterRounds .numbering ⟨table, 3⟩ file 7
    session.InSync table file ∧
      (run 4).1.2.InSync (run 4).2.2.table file ∧
      (run 2).2.2.table.ids file.text 7 = [] ∧ (run 3).2.2.table.ids file.text 7 = ["4"] ∧
      (run 4).2.2.table.ids "/a/x:y.c" 7 = ["3"] ∧
      (run 4).2.1.filterMap Call.typed? =
        ["breakpoint delete 2", "breakpoint delete 1", "b /a/b.c:7", "breakpoint delete 4"] := by
  intro file table session run
  have sync : session.InSync table file := inSync_of_listed (by decide +kernel)
  have kept : table.ids "/a/x:y.c" 7 = ["3"] := by decide +kernel
  have many : (table.ids file.text 7).length = 2 := by decide +kernel
  obtain ⟨-, ⟨-, few, -⟩, -⟩ := toggling_in_sync .numbering ⟨table, 3⟩ sync 7 2
  obtain ⟨⟨inSync, -⟩, -, ⟨others, -⟩, -⟩ := toggling_in_sync .numbering ⟨table, 3⟩ sync 7 4
  have numbered : (run 3).2.2.table.ids file.text 7 = ["4"] := by decide +kernel
  have typed : (run 4).2.1.filterMap Call.typed? =
      ["breakpoint delete 2", "breakpoint delete 1", "b /a/b.c:7", "breakpoint delete 4"] := by
    decide +kernel
  have emptied := few many.ge
  rw [many] at emptied
  -- Written out, the runs are told apart by how they are written, and need not be evaluated.
  simp only [run] at numbered typed ⊢
  exact ⟨sync, inSync, emptied, numbered, (others "/a/x:y.c" 7 (by decide)).trans kept, typed⟩

end Session

end DebugConsole
