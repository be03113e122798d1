import DebugConsole.Proofs.Breakpoints.Refusal
import DebugConsole.Proofs.Json.RoundTrip
import DebugConsole.Proofs.Location

/-!
# Listings

The breakpoints of a file in JSON are a listing of it. A reply that has a listing as its
payload is read as these breakpoints, whatever stands in front of the payload
(`Reply.read_listing`), unless one of the lines has the name that is kept for refusals
(`Reply.read_written_iff`). Of any reply that is read, each line has the ids that the payload
lists for it, in the order of the payload (`Reply.ids?_of_read`).
-/

namespace DebugConsole

namespace Breakpoints

theorem entries_foldl_insert (pairs : List (String × List String)) (breakpoints : Breakpoints) :
    (pairs.foldl (fun breakpoints pair => breakpoints.insert pair.1 pair.2) breakpoints).entries =
      pairs.foldl (fun entries pair => Entries.insert pair.1 pair.2 entries)
        breakpoints.entries := by
  induction pairs generalizing breakpoints with
  | nil => rfl
  | cons pair later inductionHypothesis => exact inductionHypothesis _

@[simp] theorem ofPairs_entries (breakpoints : Breakpoints) :
    ofPairs breakpoints.entries = breakpoints :=
  Breakpoints.ext ((entries_foldl_insert _ _).trans breakpoints.ordered.ofPairs_eq)

/-- The lines of breakpoints made from pairs are those of the pairs. -/
theorem exists_of_mem_ofPairs {pairs : List (String × List String)} {entry : String × List String}
    (member : entry ∈ (ofPairs pairs).entries) : ∃ pair ∈ pairs, pair.1 = entry.1 := by
  induction pairs using List.reverseRecOn with
  | nil => cases member
  | append_singleton pairs pair inductionHypothesis =>
    rw [ofPairs, List.foldl_append, List.foldl_cons, List.foldl_nil] at member
    rcases Entries.name_of_mem_insert member with same | older
    · exact ⟨pair, by simp, same.symm⟩
    · obtain ⟨other, inside, same⟩ := inductionHypothesis older
      exact ⟨other, List.mem_append_left _ inside, same⟩

/-- What stands under the name of a key where each key has one value. -/
theorem ids?_ofPairs_map {Key : Type} [DecidableEq Key] {name : Key → String}
    (injective : Function.Injective name) (value : Key → List String) (keys : List Key)
    (key : Key) :
    (ofPairs (keys.map fun key => (name key, value key))).ids? (name key) =
      if key ∈ keys then some (value key) else none := by
  induction keys using List.reverseRecOn with
  | nil => rfl
  | append_singleton keys last inductionHypothesis =>
    rw [ofPairs, List.map_append, List.foldl_append, List.map_singleton, List.foldl_cons,
      List.foldl_nil, ids?_insert]
    by_cases same : key = last
    · simp [same]
    · rw [if_neg (injective.ne same)]
      simp only [List.mem_append, List.mem_singleton, same, or_false]
      exact inductionHypothesis

end Breakpoints

namespace Json

/-! ## Breakpoints in JSON -/

theorem canonicalElements_eq (elements : List Json) :
    canonicalElements elements = elements.map canonical := by
  induction elements with
  | nil => rfl
  | cons element later inductionHypothesis =>
    rw [canonicalElements, inductionHypothesis, List.map_cons]

theorem canonicalMembers_eq (members : List (String × Json)) :
    canonicalMembers members = members.map fun member => (member.1, member.2.canonical) := by
  induction members with
  | nil => rfl
  | cons member later inductionHypothesis =>
    rw [canonicalMembers, inductionHypothesis, List.map_cons]

theorem canonical_ofIds (ids : List String) : (ofIds ids).canonical = ofIds ids := by
  rw [ofIds, canonical, canonicalElements_eq, List.map_map]
  rfl

theorem canonical_ofBreakpoints (breakpoints : Breakpoints) :
    (ofBreakpoints breakpoints).canonical = ofBreakpoints breakpoints := by
  have members : canonicalMembers (breakpoints.entries.map fun entry => (entry.1, ofIds entry.2)) =
      breakpoints.entries.map fun entry => (entry.1, ofIds entry.2) := by
    rw [canonicalMembers_eq, List.map_map]
    exact List.map_congr_left fun entry _ => congrArg (entry.1, ·) (canonical_ofIds entry.2)
  rw [ofBreakpoints, canonical, members, (breakpoints.ordered.map ofIds).ofPairs_eq]

theorem legible_ofBreakpoints (breakpoints : Breakpoints) (depth : Nat) :
    Legible (depth + 2) (ofBreakpoints breakpoints) := by
  refine .object fun member inside => ?_
  obtain ⟨entry, -, rfl⟩ := List.mem_map.mp inside
  refine .array fun element inside => ?_
  obtain ⟨id, -, rfl⟩ := List.mem_map.mp inside
  exact .string id

/-- A listing opens with a brace. -/
theorem exists_writeChars_ofBreakpoints (breakpoints : Breakpoints) :
    ∃ rest, (ofBreakpoints breakpoints).writeChars = '{' :: rest := by
  obtain ⟨_ | ⟨⟨line, ids⟩, later⟩, ordered⟩ := breakpoints
  · exact ⟨_, rfl⟩
  · exact ⟨_, rfl⟩

end Json

namespace Reply

theorem idTexts_string (line : String) (earlier ids : List String) :
    idTexts line earlier (ids.map .string) = .ok (earlier.reverse ++ ids) := by
  induction ids generalizing earlier with
  | nil => rw [List.map_nil, idTexts, List.append_nil]
  | cons id later inductionHypothesis =>
    simp [idTexts, idText?, inductionHypothesis]

/-- Lists of ids in front of other members are added one after the other. -/
theorem addMembers_ofIds {entries : List (String × List String)}
    (ordinary : ∀ entry ∈ entries, entry.1 ≠ errorName) (rest : List (String × Json))
    (breakpoints : Breakpoints) :
    addMembers breakpoints (entries.map (fun entry => (entry.1, Json.ofIds entry.2)) ++ rest) =
      addMembers (entries.foldl (fun breakpoints entry => breakpoints.insert entry.1 entry.2)
        breakpoints) rest := by
  induction entries generalizing breakpoints with
  | nil => rfl
  | cons entry later inductionHypothesis =>
    obtain ⟨here, others⟩ := List.forall_mem_cons.mp ordinary
    simp only [List.map_cons, List.cons_append, Json.ofIds, addMembers, if_neg here,
      idTexts_string]
    exact inductionHypothesis others _

/-- Text without a brace in front of the payload is passed over. -/
theorem payload_append {noise : List Char} (braceless : '{' ∉ noise) (rest : List Char) :
    payload (noise ++ '{' :: rest) = '{' :: rest := by
  have passed : ∀ character ∈ noise, (character != '{') = true := fun character member =>
    bne_iff_ne.mpr fun same => braceless (same ▸ member)
  rw [payload, List.dropWhile_append_of_pos passed]
  rfl

/-- A line number is no error name. -/
theorem toString_ne_errorName (line : Nat) : toString line ≠ errorName := by
  intro same
  have member : '_' ∈ Numeral.ofNat line := by
    rw [← Numeral.toList_toString, same]
    decide
  exact absurd (Numeral.ofNat_isDigit member) (by decide)

/-- A listing is read by adding one line after the other. -/
theorem read_listing_eq_addMembers {noise : List Char} (braceless : '{' ∉ noise)
    (breakpoints : Breakpoints) :
    read (some (String.ofList (noise ++ (Json.ofBreakpoints breakpoints).writeChars))) =
      addMembers .empty (breakpoints.entries.map fun entry => (entry.1, .ofIds entry.2)) := by
  have found : payload (noise ++ (Json.ofBreakpoints breakpoints).writeChars) =
      (Json.ofBreakpoints breakpoints).writeChars := by
    obtain ⟨rest, opened⟩ := Json.exists_writeChars_ofBreakpoints breakpoints
    rw [opened, payload_append braceless]
  have decoded : Json.readFront (Json.ofBreakpoints breakpoints).writeChars =
      some (.ofBreakpoints breakpoints, []) := by
    have legible : Json.Legible Json.largestDepth (.ofBreakpoints breakpoints) :=
      Json.legible_ofBreakpoints breakpoints 125
    simpa using Json.readFront_written legible (show Json.continuesNumber [] = false from rfl)
  exact read_eq_addMembers (by rw [String.toList_ofList, found, decoded])
    (Json.canonical_ofBreakpoints breakpoints)

/-- A listing is read as the breakpoints that it was made of, unless one of their lines
has the error name. -/
theorem read_listing {noise : List Char} (braceless : '{' ∉ noise) {breakpoints : Breakpoints}
    (ordinary : ∀ entry ∈ breakpoints.entries, entry.1 ≠ errorName) :
    read (some (String.ofList (noise ++ (Json.ofBreakpoints breakpoints).writeChars))) =
      .ok breakpoints := by
  have added := addMembers_ofIds ordinary [] .empty
  rw [List.append_nil] at added
  rw [read_listing_eq_addMembers braceless, added]
  exact congrArg Except.ok breakpoints.ofPairs_entries

/-- Ids under the error name are taken for a refusal, whatever the other lines are. -/
theorem read_listing_of_errorName {noise : List Char} (braceless : '{' ∉ noise)
    {breakpoints : Breakpoints} {ids : List String}
    (reserved : breakpoints.ids? errorName = some ids) :
    read (some (String.ofList (noise ++ (Json.ofBreakpoints breakpoints).writeChars))) =
      .error (.reported (Json.ofIds ids).write) := by
  obtain ⟨earlier, later, parts, before, -⟩ := breakpoints.ordered.exists_split reserved
  have ordinary : ∀ entry ∈ earlier, entry.1 ≠ errorName := fun entry member =>
    String.ne_of_lt (before entry member)
  rw [read_listing_eq_addMembers braceless, parts, List.map_append, addMembers_ofIds ordinary]
  simp only [List.map_cons, Json.ofIds, addMembers, if_pos, refusal?]

/-- Breakpoints survive the side channel. Their compact text is read as these very
breakpoints, whatever characters there are in the texts of their lines and in their ids,
and however many ids a line has. The error name alone can not be a line: under it, ids are
taken for a refusal. -/
theorem read_written_iff (breakpoints : Breakpoints) :
    read (some (Json.ofBreakpoints breakpoints).write) = .ok breakpoints ↔
      ∀ entry ∈ breakpoints.entries, entry.1 ≠ errorName := by
  have silent : '{' ∉ ([] : List Char) := by simp
  constructor
  · intro survives entry member same
    obtain ⟨ids, reserved⟩ : ∃ ids, breakpoints.ids? errorName = some ids := by
      rw [← Option.isSome_iff_exists, Breakpoints.ids?, List.lookup_isSome_iff]
      exact ⟨entry, member, beq_iff_eq.mpr same.symm⟩
    have refused : read (some (Json.ofBreakpoints breakpoints).write) =
        .error (.reported (Json.ofIds ids).write) := read_listing_of_errorName silent reserved
    rw [refused] at survives
    cases survives
  · exact fun ordinary => read_listing silent ordinary

/-! ## The ids of a line -/

/-- The texts of a list of ids, in its order. -/
def idList? : Json → Option (List String)
  | .array ids => ids.mapM idText?
  | _ => none

theorem idTexts_eq_ok_iff {line : String} {earlier : List String} {ids : List Json}
    {result : List String} :
    idTexts line earlier ids = .ok result ↔
      ∃ texts, ids.mapM idText? = some texts ∧ result = earlier.reverse ++ texts := by
  induction ids generalizing earlier with
  | nil => simp [idTexts, eq_comm]
  | cons id later inductionHypothesis =>
    cases spelled : idText? id with
    | none => simp [idTexts, spelled]
    | some text =>
      simp only [idTexts, spelled, inductionHypothesis]
      constructor
      · rintro ⟨texts, others, rfl⟩
        exact ⟨text :: texts, by simp [spelled, others], by simp⟩
      · rintro ⟨all, listed, rfl⟩
        obtain ⟨texts, others, rfl⟩ : ∃ texts, later.mapM idText? = some texts ∧
            text :: texts = all := by
          simpa [spelled, Option.bind_eq_some_iff] using listed
        exact ⟨texts, others, by simp⟩

/-- What becomes of the first member where all can be added. -/
theorem addMembers_cons_eq_ok_iff {name : String} {value : Json} {later : List (String × Json)}
    {breakpoints after : Breakpoints} :
    addMembers breakpoints ((name, value) :: later) = .ok after ↔
      name = errorName ∧ refusal? value = none ∧ addMembers breakpoints later = .ok after ∨
        name ≠ errorName ∧ ∃ texts, idList? value = some texts ∧
          addMembers (breakpoints.insert name texts) later = .ok after := by
  by_cases reserved : name = errorName
  · cases told : refusal? value with
    | some message => simp [addMembers, reserved, told]
    | none => simp [addMembers, reserved, told]
  · cases value with
    | array ids =>
      cases read : idTexts name [] ids with
      | error cause =>
        have unlisted : ∀ texts, ids.mapM idText? ≠ some texts := fun texts listed => by
          rw [idTexts_eq_ok_iff.mpr ⟨texts, listed, rfl⟩] at read
          cases read
        simp [addMembers, reserved, read, idList?, unlisted]
      | ok result =>
        obtain ⟨texts, listed, rfl⟩ := idTexts_eq_ok_iff.mp read
        simp [addMembers, reserved, read, idList?, listed]
    | null | bool _ | number _ | string _ | object _ => simp [addMembers, reserved, idList?]

/-- Where all members could be added, each line has the ids that are listed for it. -/
theorem ids?_of_addMembers {members : List (String × Json)} (ordered : Entries.Ordered members)
    {breakpoints after : Breakpoints} (added : addMembers breakpoints members = .ok after)
    {line : String} (ordinary : line ≠ errorName) :
    after.ids? line = (members.lookup line).elim (breakpoints.ids? line) idList? := by
  induction members generalizing breakpoints with
  | nil =>
    rw [addMembers, Except.ok.injEq] at added
    rw [added]
    rfl
  | cons member later inductionHypothesis =>
    obtain ⟨name, value⟩ := member
    obtain ⟨behind, orderedLater⟩ := List.pairwise_cons.mp ordered
    rw [Entries.lookup_cons_eq]
    rcases addMembers_cons_eq_ok_iff.mp added with
      ⟨rfl, -, further⟩ | ⟨-, texts, spelled, further⟩
    · rw [if_neg ordinary, inductionHypothesis orderedLater further]
    · rw [inductionHypothesis orderedLater further, Breakpoints.ids?_insert]
      by_cases same : line = name
      · -- The names of the later members are greater.
        have absent : later.lookup line = none := List.lookup_eq_none_iff.mpr fun other inside =>
          bne_iff_ne.mpr (same ▸ String.ne_of_lt (behind other inside))
        rw [if_pos same, if_pos same, absent, Option.elim_none, Option.elim_some, spelled]
      · rw [if_neg same, if_neg same]

/-- The payload of a reply lists ids for a line, spelled by these texts in this order. -/
def Lists (reply line : String) (texts : List String) : Prop :=
  ∃ value rest members listed, Json.readFront (payload reply.toList) = some (value, rest) ∧
    value.canonical = .object members ∧ members.lookup line = some listed ∧
    idList? listed = some texts

/-- A reply that is read gives each line the ids listed for it, in their order. -/
theorem ids?_of_read {reply line : String} {breakpoints : Breakpoints} {texts : List String}
    (reads : read (some reply) = .ok breakpoints) (lists : Lists reply line texts)
    (ordinary : line ≠ errorName) : breakpoints.ids? line = some texts := by
  obtain ⟨value, rest, members, listed, decoded, object, found, spelled⟩ := lists
  rw [read_eq_addMembers decoded object] at reads
  rw [ids?_of_addMembers (ordered_of_canonical object) reads ordinary, found, Option.elim_some,
    spelled]

end Reply

end DebugConsole
