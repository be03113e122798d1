import DebugConsole.Proofs.Breakpoints.Payload
import DebugConsole.Proofs.Entries

/-!
# Accepted replies

Which replies are read as which breakpoints, said in terms of their texts (`Reply.Says`). A
reply that is absent or blank says that there are none. One that holds an object says those
that its members list: of several members of one name the last counts, the error member must
report nothing, and each other member must be a list of texts and numbers. Every other reply
is an error (`Reply.read_accepts`).
-/

namespace DebugConsole

/-- Breakpoints are told apart by the ids of their lines. -/
theorem Breakpoints.eq_of_ids? {left right : Breakpoints}
    (same : ∀ line, left.ids? line = right.ids? line) : left = right :=
  Breakpoints.ext (left.ordered.eq_of_lookup right.ordered same)

namespace Reply

/-! ## What a reply says -/

/-- The text that an id stands for. A text stands for itself, a whole number for its decimal
digits, and any other number for what is written of its double. -/
inductive Identifies : Json → String → Prop where
  | text (id : String) : Identifies (.string id) id
  | whole (id : Int) : Identifies (.number (.whole id)) (toString id)
  | double (id : Double) : Identifies (.number (.double id)) id.text

/-- A list of ids and their texts, one for each and in the same order. -/
inductive IdentifiesAll : Json → List String → Prop where
  | list {ids : List Json} {texts : List String} (each : List.Forall₂ Identifies ids texts) :
      IdentifiesAll (.array ids) texts

/-- Values of the error member that report nothing. -/
inductive Unreported : Json → Prop where
  | null : Unreported .null
  | no : Unreported (.bool false)
  | empty : Unreported (.string "")

/-- The breakpoints that the members of an object list. Their lines are the names of the
members other than the error member, of which there may be one that reports nothing. -/
structure Listed (members : List (String × Json)) (breakpoints : Breakpoints) : Prop where
  unreported : ∀ value, Entries.Lasting members errorName value → Unreported value
  identified : ∀ line value, line ≠ errorName → Entries.Lasting members line value →
    ∃ texts, IdentifiesAll value texts
  lines : ∀ line texts, breakpoints.ids? line = some texts ↔
    line ≠ errorName ∧ ∃ value, Entries.Lasting members line value ∧ IdentifiesAll value texts

/-- The breakpoints that a reply says there are. -/
inductive Says : Option String → Breakpoints → Prop where
  | absent : Says none .empty
  | blank {reply : String} (blank : ∀ character ∈ reply.toList, Text.isBlank character = true) :
      Says (some reply) .empty
  | listing {reply : String} {members : List (String × Json)} {breakpoints : Breakpoints}
      (holds : Holds reply members) (listed : Listed members breakpoints) :
      Says (some reply) breakpoints

/-! ## Values of members -/

theorem idText?_eq_some_iff {id : Json} {text : String} :
    idText? id = some text ↔ Identifies id text := by
  constructor
  · intro spelled
    match id, spelled with
    | .string id, rfl => exact .text id
    | .number (.whole id), rfl => exact .whole id
    | .number (.double id), rfl => exact .double id
  · rintro (_ | _ | _) <;> rfl

theorem idList?_eq_some_iff {value : Json} {texts : List String} :
    idList? value = some texts ↔ IdentifiesAll value texts := by
  have all : ∀ ids : List Json, ids.mapM idText? = some texts ↔
      List.Forall₂ Identifies ids texts := by
    intro ids
    induction ids generalizing texts with
    | nil => simp [eq_comm]
    | cons id later inductionHypothesis =>
      simp only [List.mapM_cons, bind, Option.bind_eq_some_iff, List.forall₂_cons_left_iff,
        idText?_eq_some_iff, inductionHypothesis]
      constructor
      · rintro ⟨text, here, others, there, same⟩
        exact ⟨text, others, here, there, (Option.some.inj same).symm⟩
      · rintro ⟨text, others, here, there, rfl⟩
        exact ⟨text, here, others, there, rfl⟩
  constructor
  · intro listed
    match value, listed with
    | .array ids, listed => exact .list ((all ids).mp listed)
  · rintro ⟨each⟩
    exact (all _).mpr each

theorem refusal?_eq_none_iff {value : Json} : refusal? value = none ↔ Unreported value := by
  constructor
  · intro silent
    match value, silent with
    | .null, _ => exact .null
    | .bool false, _ => exact .no
    | .string message, silent =>
      obtain rfl : message = "" := by simpa [refusal?] using silent
      exact .empty
  · rintro (_ | _ | _) <;> rfl

theorem refusal?_canonical (value : Json) :
    refusal? value.canonical = none ↔ refusal? value = none := by
  cases value with
  | null | bool _ | number _ | string _ => rw [Json.canonical] <;> simp
  | array _ | object _ => simp [Json.canonical, refusal?]

theorem idText?_canonical (id : Json) : idText? id.canonical = idText? id := by
  cases id with
  | null | bool _ | number _ | string _ => rw [Json.canonical] <;> simp
  | array _ | object _ => simp [Json.canonical, idText?]

theorem idList?_canonical (value : Json) : idList? value.canonical = idList? value := by
  cases value with
  | array ids =>
    rw [Json.canonical, Json.canonicalElements_eq, idList?, idList?, List.mapM_map]
    exact congrArg (ids.mapM ·) (funext idText?_canonical)
  | null | bool _ | number _ | string _ => rw [Json.canonical] <;> simp
  | object _ => simp [Json.canonical, idList?]

/-! ## Adding all members -/

/-- Can a member be added? The error member can if it reports nothing, and any other if it is
a list of ids. -/
def Fits (name : String) (value : Json) : Prop :=
  if name = errorName then refusal? value = none else ∃ texts, idList? value = some texts

theorem fits_canonical {name : String} {value : Json} :
    Fits name value.canonical ↔ Fits name value := by
  rw [Fits, Fits, refusal?_canonical, idList?_canonical]

variable {members : List (String × Json)} {breakpoints after : Breakpoints}

/-- All members can be added if each of them can. -/
theorem addMembers_ok_iff :
    (∃ after, addMembers breakpoints members = .ok after) ↔
      ∀ member ∈ members, Fits member.1 member.2 := by
  induction members generalizing breakpoints with
  | nil => exact iff_of_true ⟨breakpoints, rfl⟩ (by simp)
  | cons member later inductionHypothesis =>
    rw [List.forall_mem_cons, Fits]
    constructor
    · rintro ⟨after, added⟩
      rcases addMembers_cons_eq_ok_iff.mp added with
        ⟨reserved, silent, further⟩ | ⟨ordinary, texts, listed, further⟩
      · rw [if_pos reserved]
        exact ⟨silent, inductionHypothesis.mp ⟨after, further⟩⟩
      · rw [if_neg ordinary]
        exact ⟨⟨texts, listed⟩, inductionHypothesis.mp ⟨after, further⟩⟩
    · rintro ⟨here, others⟩
      by_cases reserved : member.1 = errorName
      · rw [if_pos reserved] at here
        obtain ⟨after, further⟩ := inductionHypothesis.mpr others
        exact ⟨after, addMembers_cons_eq_ok_iff.mpr (.inl ⟨reserved, here, further⟩)⟩
      · rw [if_neg reserved] at here
        obtain ⟨texts, listed⟩ := here
        obtain ⟨after, further⟩ := inductionHypothesis.mpr others
        exact ⟨after, addMembers_cons_eq_ok_iff.mpr (.inr ⟨reserved, texts, listed, further⟩)⟩

/-- The error name becomes no line. -/
theorem ids?_errorName_of_addMembers (added : addMembers breakpoints members = .ok after) :
    after.ids? errorName = breakpoints.ids? errorName := by
  induction members generalizing breakpoints with
  | nil => rw [Except.ok.inj added]
  | cons member later inductionHypothesis =>
    rcases addMembers_cons_eq_ok_iff.mp added with ⟨-, -, further⟩ | ⟨ordinary, texts, -, further⟩
    · exact inductionHypothesis further
    · rw [inductionHypothesis further, Breakpoints.ids?_insert, if_neg (Ne.symm ordinary)]

/-- Adding members gives the ids of those that can be added, and fails if there are others. -/
theorem addMembers_eq_ok_iff (ordered : Entries.Ordered members) :
    addMembers .empty members = .ok after ↔
      (∀ name value, members.lookup name = some value → Fits name value) ∧
        ∀ line, after.ids? line =
          if line = errorName then none else (members.lookup line).bind idList? := by
  have told : ∀ {after}, addMembers .empty members = .ok after → ∀ line, after.ids? line =
      if line = errorName then none else (members.lookup line).bind idList? := by
    intro after added line
    split
    · next reserved => rw [reserved, ids?_errorName_of_addMembers added, Breakpoints.ids?_empty]
    · next ordinary =>
      rw [ids?_of_addMembers ordered added ordinary]
      cases members.lookup line <;> rfl
  constructor
  · intro added
    refine ⟨fun name value found => ?_, told added⟩
    exact addMembers_ok_iff.mp ⟨after, added⟩ (name, value) (ordered.mem_iff_lookup.mpr found)
  · rintro ⟨fits, lines⟩
    obtain ⟨result, added⟩ : ∃ result, addMembers .empty members = .ok result :=
      addMembers_ok_iff.mpr fun member inside => fits _ _ (ordered.mem_iff_lookup.mp inside)
    rw [added, Breakpoints.eq_of_ids? fun line => (told added line).trans (lines line).symm]

/-! ## Reading -/

/-- What members list, said of the entries that are made from them. -/
theorem listed_iff :
    Listed members breakpoints ↔
      (∀ name value, (Entries.ofPairs members).lookup name = some value → Fits name value) ∧
        ∀ line, breakpoints.ids? line =
          if line = errorName then none
          else ((Entries.ofPairs members).lookup line).bind idList? := by
  have found : ∀ {name value}, Entries.Lasting members name value ↔
      (Entries.ofPairs members).lookup name = some value := Entries.lookup_ofPairs_iff.symm
  have lines_iff : (∀ line texts, breakpoints.ids? line = some texts ↔ line ≠ errorName ∧
      ∃ value, Entries.Lasting members line value ∧ IdentifiesAll value texts) ↔
        ∀ line, breakpoints.ids? line =
          if line = errorName then none
          else ((Entries.ofPairs members).lookup line).bind idList? := by
    refine forall_congr' fun line => ?_
    rw [Option.ext_iff]
    refine forall_congr' fun texts => ?_
    by_cases reserved : line = errorName
    · simp [reserved]
    · simp [reserved, found, Option.bind_eq_some_iff, idList?_eq_some_iff]
  constructor
  · rintro ⟨unreported, identified, lines⟩
    refine ⟨fun name value lasting => ?_, lines_iff.mp lines⟩
    rw [Fits]
    split
    · next reserved =>
      exact refusal?_eq_none_iff.mpr (unreported value (found.mpr (reserved ▸ lasting)))
    · next ordinary =>
      obtain ⟨texts, spelled⟩ := identified name value ordinary (found.mpr lasting)
      exact ⟨texts, idList?_eq_some_iff.mpr spelled⟩
  · rintro ⟨fits, lines⟩
    refine ⟨fun value lasting => ?_, fun line value ordinary lasting => ?_, lines_iff.mpr lines⟩
    · have silent := fits _ _ (found.mp lasting)
      rw [Fits, if_pos rfl] at silent
      exact refusal?_eq_none_iff.mp silent
    · have spelled := fits _ _ (found.mp lasting)
      rw [Fits, if_neg ordinary] at spelled
      obtain ⟨texts, spelled⟩ := spelled
      exact ⟨texts, idList?_eq_some_iff.mp spelled⟩

variable {reply : String}

/-- A reply that holds an object is read as the breakpoints that its members list. -/
theorem Holds.read_eq_ok_iff (holds : Holds reply members) :
    read (some reply) = .ok breakpoints ↔ Listed members breakpoints := by
  have canonical : ∀ name, (Entries.ofPairs (Json.canonicalMembers members)).lookup name =
      ((Entries.ofPairs members).lookup name).map Json.canonical := fun name => by
    rw [Json.canonicalMembers_eq, Entries.lookup_ofPairs_map]
  have ids : ∀ line, ((Entries.ofPairs (Json.canonicalMembers members)).lookup line).bind idList? =
      ((Entries.ofPairs members).lookup line).bind idList? := fun line => by
    rw [canonical, Option.bind_map]
    exact congrArg _ (funext idList?_canonical)
  rw [holds.read_eq, addMembers_eq_ok_iff (Entries.ordered_ofPairs _), listed_iff]
  simp only [ids]
  simp only [canonical, Option.map_eq_some_iff]
  refine and_congr_left fun _ => forall_congr' fun name => ?_
  constructor
  · exact fun fits value found => fits_canonical.mp (fits _ ⟨value, found, rfl⟩)
  · rintro fits _ ⟨value, found, rfl⟩
    exact fits_canonical.mpr (fits value found)

/-- A reply is read as the breakpoints that it says there are, and a reply that says nothing
of the kind is an error, which tells no breakpoints. -/
theorem read_accepts (reply : Option String) :
    (∀ breakpoints, read reply = .ok breakpoints ↔ Says reply breakpoints) ∧
      ((∃ breakpoints, Says reply breakpoints) ∨ ∃ fault, read reply = .error fault) := by
  have exactly : ∀ breakpoints, read reply = .ok breakpoints ↔ Says reply breakpoints := by
    intro breakpoints
    constructor
    · intro reads
      cases reply with
      | none => exact Except.ok.inj reads ▸ .absent
      | some reply =>
        cases visible : Text.isAllBlank reply.toList with
        | true =>
          have silent : read (some reply) = .ok .empty := if_pos visible
          rw [silent] at reads
          exact Except.ok.inj reads ▸ .blank (List.all_eq_true.mp visible)
        | false =>
          by_cases held : ∃ members, Holds reply members
          · obtain ⟨members, holds⟩ := held
            exact .listing holds (holds.read_eq_ok_iff.mp reads)
          · obtain ⟨cause, refused⟩ := read_of_unheld visible (not_exists.mp held)
            rw [refused] at reads
            cases reads
    · intro told
      cases told with
      | absent => rfl
      | blank blank => exact if_pos (List.all_eq_true.mpr blank)
      | listing holds listed => exact holds.read_eq_ok_iff.mpr listed
  refine ⟨exactly, ?_⟩
  cases reads : read reply with
  | ok breakpoints => exact .inl ⟨breakpoints, (exactly breakpoints).mp reads⟩
  | error fault => exact .inr ⟨fault, rfl⟩

/-- Only the last member of a name counts, and a zero with a sign is no whole number. -/
theorem read_accepts_last_members :
    let reply := "> \x7b\"7\": null, \"_error\": 1, \"7\": [\"a\", -0, 12], \"_error\": false\x7d"
    Says (some reply) (.ofPairs [("7", ["a", "-0.0", "12"])]) := by
  intro reply
  have decoded : Json.readFront (payload reply.toList) = some (.object
      [("7", .null), ("_error", .number (.whole 1)),
        ("7", .array [.string "a", .number (.double (.zero true)), .number (.whole 12)]),
        ("_error", .bool false)], []) := by
    cbv
  exact ((read_accepts (some reply)).1 _).mp (read_eq_addMembers decoded rfl)

end Reply

end DebugConsole
