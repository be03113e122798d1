import DebugConsole.Proofs.Breakpoints.Listing
import DebugConsole.Proofs.Json.Exactness

/-!
# Payloads

The payload of a reply is the object that is spelled from its first opening brace on. What
the reply says depends on the members of this object alone (`Reply.Holds.read_eq`), so
neither text without a brace in front of it nor any text behind it changes the answer
(`Reply.read_amid_noise`).
-/

namespace DebugConsole

theorem Json.Spells.exists_brace {depth : Nat} {front : List Char} {members : List (String × Json)}
    (spelled : Spells depth front (.object members)) : ∃ behind, front = '{' :: behind := by
  cases depth with
  | zero => cases spelled
  | succ depth =>
    rcases spelled with scalar | container
    · cases scalar
    · cases container with
      | noMembers => exact ⟨_, rfl⟩
      | members => exact ⟨_, rfl⟩

namespace Reply

/-- From the first opening brace of a reply on, an object with these members is spelled.
Anything may stand behind it. -/
def Holds (reply : String) (members : List (String × Json)) : Prop :=
  ∃ noise front rest, reply.toList = noise ++ (front ++ rest) ∧ '{' ∉ noise ∧
    Json.Spells Json.largestDepth front (.object members)

/-- The text in front of the payload has no opening brace. -/
theorem exists_noise (reply : List Char) :
    ∃ noise, reply = noise ++ payload reply ∧ '{' ∉ noise := by
  refine ⟨reply.takeWhile (· != '{'), List.takeWhile_append_dropWhile.symm, fun inside => ?_⟩
  simpa using List.all_eq_true.mp List.all_takeWhile _ inside

theorem holds_iff {reply : String} {members : List (String × Json)} :
    Holds reply members ↔
      ∃ rest, Json.readFront (payload reply.toList) = some (.object members, rest) := by
  constructor
  · rintro ⟨noise, front, rest, parts, braceless, spelled⟩
    obtain ⟨behind, opened⟩ := spelled.exists_brace
    have found : payload reply.toList = front ++ rest := by
      rw [parts, opened, List.cons_append, payload_append braceless]
    rw [found]
    exact ⟨rest, Json.readFront_object_iff.mpr ⟨[], front, rfl, Json.spaces_nil, spelled⟩⟩
  · rintro ⟨rest, reads⟩
    obtain ⟨gap, front, found, blank, spelled⟩ := Json.readFront_object_iff.mp reads
    obtain ⟨noise, parts, braceless⟩ := exists_noise reply.toList
    have unbraced : '{' ∉ gap := fun inside => absurd (blank _ inside) (by decide)
    exact ⟨noise ++ gap, front, rest, by rw [List.append_assoc, ← found]; exact parts,
      by simp [braceless, unbraced], spelled⟩

/-- What a reply says depends on the members that it holds. -/
theorem Holds.read_eq {reply : String} {members : List (String × Json)}
    (holds : Holds reply members) :
    read (some reply) = addMembers .empty (Entries.ofPairs (Json.canonicalMembers members)) := by
  obtain ⟨rest, decoded⟩ := holds_iff.mp holds
  exact read_eq_addMembers decoded (by rw [Json.canonical])

/-- A reply that is neither blank nor holds an object is malformed. -/
theorem read_of_unheld {reply : String} (visible : Text.isAllBlank reply.toList = false)
    (unheld : ∀ members, ¬ Holds reply members) :
    ∃ cause, read (some reply) = .error (.malformed cause) := by
  have other : ∀ members, (Json.readFront (payload reply.toList)).map
      (fun (front : Json × List Char) => front.1.canonical) ≠ some (Json.object members) := by
    intro members same
    obtain ⟨⟨value, rest⟩, decoded, object⟩ := Option.map_eq_some_iff.mp same
    cases value with
    | object written => exact unheld written (holds_iff.mpr ⟨rest, decoded⟩)
    | null | bool _ | number _ | string _ | array _ => simp [Json.canonical] at object
  simp only [read, visible, Bool.false_eq_true, if_false]
  split <;> exact ⟨_, rfl⟩

/-- Noise around a payload does not change the answer. Where a text is read as one object, it
says the same, be it breakpoints, a refusal or a malformation, behind any text without an
opening brace and in front of any text at all. -/
theorem read_amid_noise {noise payload behind : String} {members : List (String × Json)}
    (braceless : '{' ∉ noise.toList) (entire : Json.read payload.toList = some (.object members)) :
    read (some (noise ++ payload ++ behind)) = read (some payload) := by
  have spelled := Json.read_eq_some_iff.mp entire
  generalize written : payload.toList = text at spelled
  cases spelled with
  | @around before front rest _ blank spelled =>
    have unbraced : '{' ∉ before := fun inside => absurd (blank _ inside) (by decide)
    have alone : Holds payload members := ⟨before, front, rest, written, unbraced, spelled⟩
    have amid : Holds (noise ++ payload ++ behind) members :=
      ⟨noise.toList ++ before, front, rest ++ behind.toList, by simp [written],
        by simp [braceless, unbraced], spelled⟩
    rw [amid.read_eq, alone.read_eq]

/-- Braces and quotation marks in the strings of a payload end it as little as those behind
it are taken for more of it. -/
theorem read_amid_noise_braces :
    let noise := "(gdb) server info\r\n"
    let payload := "\x7b\"4\": [\"\x7d, \\\"5\", 7], \"_error\": \"\"\x7d"
    let behind := "\x7d \x7b\"4\": [], \x7b\x7b\""
    '{' ∉ noise.toList ∧
      Json.read payload.toList = some (.object
        [("4", .array [.string "\x7d, \"5", .number (.whole 7)]), ("_error", .string "")]) ∧
      read (some (noise ++ payload ++ behind)) = read (some payload) ∧
      read (some payload) = .ok (.ofPairs [("4", ["\x7d, \"5", "7"])]) := by
  intro noise payload behind
  have braceless : '{' ∉ noise.toList := by decide
  have entire : Json.read payload.toList = some (.object
      [("4", .array [.string "\x7d, \"5", .number (.whole 7)]), ("_error", .string "")]) := by
    cbv
  have decoded : Json.readFront (Reply.payload payload.toList) = some (.object
      [("4", .array [.string "\x7d, \"5", .number (.whole 7)]), ("_error", .string "")], []) := by
    cbv
  exact ⟨braceless, entire, read_amid_noise braceless entire, read_eq_addMembers decoded rfl⟩

end Reply

end DebugConsole
