import DebugConsole.Proofs.Session.Operations
import DebugConsole.Session.Rehearsal
import Mathlib

/-!
# Refusals

A reply refuses when its payload is an object with a text under the error name. The
members of a payload are added in order of their names and the first that cannot be
added decides, so what becomes of a refusal lies with the members in front of it
(`Session.refusal_outcome`): it is told, and nothing known is lost, when each of them
gives a list of ids, and otherwise the reply counts as malformed.
-/

namespace DebugConsole

/-- The line that a malformation blames. -/
def Malformation.line? : Malformation → Option String
  | .noPayload _ | .unreadable => none
  | .noIdList line | .badId line _ => some line

namespace Reply

/-- Is a value a list of ids? -/
def isIdList : Json → Bool
  | .array ids => ids.all fun id => (idText? id).isSome
  | _ => false

/-- A reply whose payload is an object, decoded to these members, that reports an error
with a message. -/
structure Refuses (reply : String) (members : List (String × Json)) (message : String) :
    Prop where
  decoded : ∃ value rest, Json.readFront (payload reply.toList) = some (value, rest) ∧
    value.canonical = .object members
  reported : members.lookup errorName = some (.string message)
  told : message ≠ ""

/-! ## Adding members -/

theorem idTexts_cases (line : String) (earlier : List String) (ids : List Json) :
    (ids.all fun id => (idText? id).isSome) = true ∧
        (∃ texts, idTexts line earlier ids = .ok texts) ∨
      (ids.all fun id => (idText? id).isSome) = false ∧
        ∃ id, idTexts line earlier ids = .error (.badId line id) := by
  induction ids generalizing earlier with
  | nil => exact .inl ⟨rfl, _, rfl⟩
  | cons id later inductionHypothesis =>
    cases spelled : idText? id with
    | none => exact .inr ⟨by simp [spelled], id, by simp only [idTexts, spelled]⟩
    | some text =>
      simpa only [idTexts, spelled, List.all_cons, Option.isSome_some, Bool.true_and] using
        inductionHypothesis (text :: earlier)

/-- What a member other than the error member does. A list of ids is added, and the next
member follows; anything else is blamed on its line, and no further member is looked at. -/
theorem addMembers_cons_cases {name : String} (ordinary : name ≠ errorName) (value : Json)
    (breakpoints : Breakpoints) (later : List (String × Json)) :
    isIdList value = true ∧ (∃ texts, addMembers breakpoints ((name, value) :: later) =
        addMembers (breakpoints.insert name texts) later) ∨
      isIdList value = false ∧ ∃ cause, cause.line? = some name ∧
        addMembers breakpoints ((name, value) :: later) = .error (.malformed cause) := by
  cases value with
  | array ids =>
    rcases idTexts_cases name [] ids with ⟨listed, texts, read⟩ | ⟨unlisted, id, read⟩
    · exact .inl ⟨listed, texts, by simp only [addMembers, if_neg ordinary, read]⟩
    · exact .inr ⟨unlisted, .badId name id, rfl, by simp only [addMembers, if_neg ordinary, read]⟩
  | null | bool _ | number _ | string _ | object _ =>
    exact .inr ⟨rfl, .noIdList name, rfl, by simp only [addMembers, if_neg ordinary]⟩

variable {reply : String} {members : List (String × Json)} {message : String}

/-- The error member is told unless a member in front of it is blamed. -/
theorem addMembers_refusal_cases (told : message ≠ "") {earlier : List (String × Json)}
    (before : ∀ member ∈ earlier, member.1 < errorName) (breakpoints : Breakpoints)
    (later : List (String × Json)) :
    (∀ member ∈ earlier, isIdList member.2 = true) ∧
        addMembers breakpoints (earlier ++ (errorName, .string message) :: later) =
          .error (.reported message) ∨
      ∃ member ∈ earlier, isIdList member.2 = false ∧ ∃ cause, cause.line? = some member.1 ∧
        addMembers breakpoints (earlier ++ (errorName, .string message) :: later) =
          .error (.malformed cause) := by
  induction earlier generalizing breakpoints with
  | nil => exact .inl ⟨by simp, by simp [addMembers, refusal?, told]⟩
  | cons member others inductionHypothesis =>
    rw [List.forall_mem_cons] at before
    rcases addMembers_cons_cases (String.ne_of_lt before.1) member.2 breakpoints
      (others ++ (errorName, .string message) :: later) with
      ⟨listed, texts, added⟩ | ⟨unlisted, cause, line, blamed⟩
    · rcases inductionHypothesis before.2 (breakpoints.insert member.1 texts) with
        ⟨all, reported⟩ | ⟨other, inside, unlisted, cause, line, blamed⟩
      · exact .inl ⟨List.forall_mem_cons.mpr ⟨listed, all⟩, added.trans reported⟩
      · exact .inr ⟨other, List.mem_cons_of_mem _ inside, unlisted, cause, line, added.trans blamed⟩
    · exact .inr ⟨member, List.mem_cons_self, unlisted, cause, line, blamed⟩

/-! ## Reading a refusal -/

/-- A payload that can be decoded is what is read. -/
theorem read_eq_addMembers {value : Json} {rest : List Char}
    (decoded : Json.readFront (payload reply.toList) = some (value, rest))
    (object : value.canonical = .object members) :
    read (some reply) = addMembers .empty members := by
  have found : payload reply.toList ≠ [] := by
    intro nothing
    rw [nothing] at decoded
    cases decoded
  have brace : '{' ∈ reply.toList := Decidable.byContradiction fun absent =>
    found (List.dropWhile_eq_nil_iff.mpr fun character member =>
      bne_iff_ne.mpr fun same => absent (same ▸ member))
  have visible : Text.isAllBlank reply.toList = false :=
    List.all_eq_false.mpr ⟨'{', brace, by decide⟩
  simp only [read, visible, List.isEmpty_eq_false_iff.mpr found, decoded, Option.map_some, object,
    Bool.false_eq_true, if_false]

/-- The members of a canonical object are in order of their names. -/
theorem ordered_of_canonical {value : Json} (object : value.canonical = .object members) :
    Entries.Ordered members := by
  cases value with
  | object written =>
    rw [Json.canonical, Json.object.injEq] at object
    exact object ▸ Entries.ordered_ofPairs _
  | null | bool _ | number _ | string _ | array _ => simp [Json.canonical] at object

/-- A refusal is read as such, or a line in front of the error member is blamed. -/
theorem Refuses.read_cases (refuses : Refuses reply members message) :
    (∀ member ∈ members, member.1 < errorName → isIdList member.2 = true) ∧
        read (some reply) = .error (.reported message) ∨
      ∃ member ∈ members, member.1 < errorName ∧ isIdList member.2 = false ∧
        ∃ cause, cause.line? = some member.1 ∧ read (some reply) = .error (.malformed cause) := by
  obtain ⟨⟨value, rest, decoded, object⟩, reported, told⟩ := refuses
  obtain ⟨earlier, later, rfl, before, behind⟩ :=
    (ordered_of_canonical object).exists_split reported
  rw [read_eq_addMembers decoded object]
  rcases addMembers_refusal_cases told before .empty later with
    ⟨listed, reported⟩ | ⟨member, inside, unlisted, cause, line, blamed⟩
  · -- A member of a lesser name can only stand in front of the error member.
    refine .inl ⟨fun member inside less => ?_, reported⟩
    rcases List.mem_append.mp inside with front | atOrBehind
    · exact listed member front
    · rcases List.mem_cons.mp atOrBehind with rfl | back
      · exact absurd less (String.lt_irrefl _)
      · exact absurd less (String.lt_asymm (behind member back))
  · exact .inr ⟨member, List.mem_append_left _ inside, before member inside, unlisted, cause, line,
      blamed⟩

end Reply

/-! ## What becomes of a refusal -/

namespace Session

variable {World : Type} {surroundings : Surroundings World} {session : Session} {file : Path}
  {world after : World}

/-- What becomes of a refusal. If every member whose name is less than the error name
gives a list of ids, the message is reported, the store stays as it is and the editor is
told of the message and of nothing else. If one does not, the reply is malformed, the
line of such a member is blamed, and the file counts as one without breakpoints. -/
theorem refusal_outcome {reply : String} {members : List (String × Json)} {message : String}
    (refuses : Reply.Refuses reply members message) (watched : session.watched = some file)
    (answered : surroundings.request (Breakpoints.request file) world = (.text reply, after)) :
    ((∀ member ∈ members, member.1 < Reply.errorName → Reply.isIdList member.2 = true) →
      Reply.read (some reply) = .error (.reported message) ∧
      session.store.query surroundings.request file world =
        ((.error (.reported message), session.store), after) ∧
      session.refresh surroundings world = (([.queryError file message], session), after)) ∧
    ((∃ member ∈ members, member.1 < Reply.errorName ∧ Reply.isIdList member.2 = false) →
      ∃ member ∈ members, member.1 < Reply.errorName ∧ Reply.isIdList member.2 = false ∧
      ∃ cause, cause.line? = some member.1 ∧
      Reply.read (some reply) = .error (.malformed cause) ∧
      session.store.query surroundings.request file world =
        ((.error (.malformed cause), session.store.set file .empty), after) ∧
      session.refresh surroundings world =
        (([.breakpointsUpdated file .empty],
          { session with store := session.store.set file .empty }), after)) := by
  have queried := BreakpointStore.query_eq answered session.store
  rcases refuses.read_cases with ⟨listed, read⟩ | ⟨member, inside, less, unlisted, cause, line, read⟩
  all_goals simp only [Answer.breakpoints, read, BreakpointStore.learn] at queried
  · refine ⟨fun _ => ⟨read, queried, refresh_eq watched queried⟩, ?_⟩
    rintro ⟨member, inside, less, unlisted⟩
    rw [listed member inside less] at unlisted
    cases unlisted
  · refine ⟨fun listed => ?_, fun _ => ⟨member, inside, less, unlisted, cause, line, read, queried,
      refresh_eq watched queried⟩⟩
    rw [listed member inside less] at unlisted
    cases unlisted

/-- Ids in front of the error name do not hide a refusal, and behind it anything may
stand. -/
theorem refusal_outcome_behind_ids :
    let file : Path := ⟨"/home/a.c"⟩
    let reply := "> \x7b\"x\": true, \"_error\": \"no symbols\", \"4\": [\"2\", 3]\x7d >"
    let session := { start .gdb .standard with watched := some file }
    session.refresh Rehearsal.surroundings (Rehearsal.fresh.prepare (.text reply)) =
      (([.queryError file "no symbols"], session),
        { Rehearsal.fresh with requests := [Breakpoints.request file] }) := by
  intro file reply session
  have decoded : Json.readFront (Reply.payload reply.toList) = some (.object
      [("x", .bool true), ("_error", .string "no symbols"),
        ("4", .array [.string "2", .number (.whole 3)])], [' ', '>']) := by
    cbv
  have refuses : Reply.Refuses reply
      [("4", .array [.string "2", .number (.whole 3)]), ("_error", .string "no symbols"),
        ("x", .bool true)] "no symbols" :=
    ⟨⟨_, _, decoded, by cbv⟩, rfl, by decide⟩
  have watched : session.watched = some file := rfl
  have answered : Rehearsal.surroundings.request (Breakpoints.request file)
      (Rehearsal.fresh.prepare (.text reply)) =
        (.text reply, { Rehearsal.fresh with requests := [Breakpoints.request file] }) := rfl
  exact ((refusal_outcome refuses watched answered).1 (by decide)).2.2

/-- A refusal can be hidden. A line whose name is less than the error name and that gives
a text instead of a list is blamed in its place, and what was known of the file is lost. -/
theorem refusal_hidden :
    let file : Path := ⟨"/home/a.c"⟩
    let reply := "\x7b\"7\": \"1\", \"_error\": \"no symbol table\"\x7d"
    let known := BreakpointStore.empty.set file (.ofPairs [("7", ["1"])])
    let queried := known.query Rehearsal.request file (Rehearsal.fresh.prepare (.text reply))
    Reply.Refuses reply [("7", .string "1"), ("_error", .string "no symbol table")]
      "no symbol table" ∧
    Reply.read (some reply) = .error (.malformed (.noIdList "7")) ∧
    queried.1 = (.error (.malformed (.noIdList "7")), known.set file .empty) ∧
    known.get? file = some (.ofPairs [("7", ["1"])]) ∧
    (known.set file .empty).get? file = some .empty := by
  intro file reply known queried
  have decoded : Json.readFront (Reply.payload reply.toList) =
      some (.object [("7", .string "1"), ("_error", .string "no symbol table")], []) := by cbv
  have read : Reply.read (some reply) = .error (.malformed (.noIdList "7")) :=
    Reply.read_eq_addMembers decoded rfl
  have learned : queried.1 =
      ((Answer.text reply).breakpoints, known.learn file (Answer.text reply).breakpoints) := rfl
  refine ⟨⟨⟨_, _, decoded, rfl⟩, rfl, by decide⟩, read, ?_, ?_, ?_⟩
  · simpa only [Answer.breakpoints, read, BreakpointStore.learn] using learned
  · simp [known, Path.same]
  · simp [Path.same]

end Session

end DebugConsole
