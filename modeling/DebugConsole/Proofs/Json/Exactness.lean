import DebugConsole.Proofs.Json.Literals
import DebugConsole.Proofs.Json.Strings
import DebugConsole.Proofs.Location
import Mathlib.Data.List.DropRight

/-!
# Values are read exactly

A text is read as a value if and only if it spells this value (`Json.read_eq_some_iff`), and
an object at the front of a text is read up to its closing brace, whatever stands behind it
(`Json.readFront_object_iff`).
-/

namespace DebugConsole.Json

/-! ## White space -/

theorem skipSpace_spaces {gap : List Char} (blank : Spaces gap) (text : List Char) :
    skipSpace (gap ++ text) = skipSpace text :=
  List.dropWhile_append_of_pos blank

theorem exists_spaces (text : List Char) : ∃ gap, text = gap ++ skipSpace text ∧ Spaces gap :=
  ⟨text.takeWhile isSpace, List.takeWhile_append_dropWhile.symm,
    List.all_eq_true.mp List.all_takeWhile⟩

/-- What is found behind white space. -/
theorem skipSpace_eq_cons_iff {first : Char} (visible : isSpace first = false)
    {text rest : List Char} :
    skipSpace text = first :: rest ↔ ∃ gap, text = gap ++ first :: rest ∧ Spaces gap := by
  constructor
  · intro found
    obtain ⟨gap, parts, blank⟩ := exists_spaces text
    exact ⟨gap, found ▸ parts, blank⟩
  · rintro ⟨gap, rfl, blank⟩
    rw [skipSpace_spaces blank]
    exact List.dropWhile_cons_of_neg (by simp [visible])

theorem skipSpace_skipSpace (text : List Char) : skipSpace (skipSpace text) = skipSpace text :=
  List.dropWhile_idempotent isSpace text

theorem readValue_skipSpace (fuel depth : Nat) (text : List Char) :
    readValue fuel depth (skipSpace text) = readValue fuel depth text := by
  cases fuel with
  | zero => rfl
  | succ fuel => rw [readValue, readValue, skipSpace_skipSpace]

theorem readValue_spaces {gap : List Char} (blank : Spaces gap) (fuel depth : Nat)
    (text : List Char) : readValue fuel depth (gap ++ text) = readValue fuel depth text := by
  rw [← readValue_skipSpace, skipSpace_spaces blank, readValue_skipSpace]

theorem readElements_skipSpace (fuel depth : Nat) (earlier : List Json) (text : List Char) :
    readElements fuel depth earlier (skipSpace text) = readElements fuel depth earlier text := by
  cases fuel with
  | zero => rfl
  | succ fuel => rw [readElements, readElements, readValue_skipSpace]

theorem readMembers_skipSpace (fuel depth : Nat) (earlier : List (String × Json))
    (text : List Char) :
    readMembers fuel depth earlier (skipSpace text) = readMembers fuel depth earlier text := by
  cases fuel with
  | zero => rfl
  | succ fuel => rw [readMembers, readMembers, skipSpace_skipSpace]

/-! ## One step of the reader -/

/-- A container that can be closed at once is read so, and any other by its parts. -/
theorem closes_or_continues {close : Char} (visible : isSpace close = false) {text : List Char}
    {empty : Json} {opened parts : Option (Json × List Char)}
    (closes : ∀ rest, skipSpace text = close :: rest → opened = some (empty, rest) ∧ parts = none)
    (continues : (∀ rest, skipSpace text ≠ close :: rest) → opened = parts)
    {result : Json × List Char} :
    opened = some result ↔
      (∃ gap rest, text = gap ++ close :: rest ∧ Spaces gap ∧ result = (empty, rest)) ∨
        parts = some result := by
  by_cases closed : ∃ rest, skipSpace text = close :: rest
  · obtain ⟨rest, closed⟩ := closed
    obtain ⟨ended, nothing⟩ := closes rest closed
    rw [ended, nothing]
    constructor
    · intro same
      obtain ⟨gap, parts, blank⟩ := (skipSpace_eq_cons_iff visible).mp closed
      exact .inl ⟨gap, rest, parts, blank, (Option.some.inj same).symm⟩
    · rintro (⟨gap, behind, parts, blank, rfl⟩ | ⟨⟨⟩⟩)
      have again := (skipSpace_eq_cons_iff visible).mpr ⟨gap, parts, blank⟩
      rw [closed] at again
      rw [(List.cons.inj again).2]
  · rw [continues fun rest same => closed ⟨rest, same⟩]
    constructor
    · exact .inr
    · rintro (⟨gap, rest, parts, blank, -⟩ | reads)
      · exact absurd ⟨rest, (skipSpace_eq_cons_iff visible).mpr ⟨gap, parts, blank⟩⟩ closed
      · exact reads

/-- Behind its opening bracket an array is empty or has elements. -/
theorem readValue_array_iff {fuel depth : Nat} {text : List Char} {result : Json × List Char} :
    readValue (fuel + 1) (depth + 1) ('[' :: text) = some result ↔
      (∃ gap rest, text = gap ++ ']' :: rest ∧ Spaces gap ∧ result = (.array [], rest)) ∨
        readElements fuel depth [] text = some result := by
  have opened : skipSpace ('[' :: text) = '[' :: text := rfl
  refine closes_or_continues rfl (fun rest closed => ⟨?_, ?_⟩) fun continues => ?_
  · simp [readValue, opened, closed]
  · rw [← readElements_skipSpace, closed]
    rcases fuel with _ | _ | fuel <;> rfl
  · simp only [readValue, opened, Nat.succ_ne_zero, if_false, Nat.add_sub_cancel]
    exact readElements_skipSpace fuel depth [] text

/-- Behind its opening brace an object is empty or has members. -/
theorem readValue_object_iff {fuel depth : Nat} {text : List Char} {result : Json × List Char} :
    readValue (fuel + 1) (depth + 1) ('{' :: text) = some result ↔
      (∃ gap rest, text = gap ++ '}' :: rest ∧ Spaces gap ∧ result = (.object [], rest)) ∨
        readMembers fuel depth [] text = some result := by
  have opened : skipSpace ('{' :: text) = '{' :: text := rfl
  refine closes_or_continues rfl (fun rest closed => ⟨?_, ?_⟩) fun continues => ?_
  · simp [readValue, opened, closed]
  · rw [← readMembers_skipSpace, closed]
    rcases fuel with _ | fuel <;> rfl
  · simp only [readValue, opened, Nat.succ_ne_zero, if_false, Nat.add_sub_cancel]
    exact readMembers_skipSpace fuel depth [] text

/-- An element is read, and what stands behind it decides whether more are. -/
theorem readElements_iff {fuel depth : Nat} {earlier : List Json} {text : List Char}
    {result : Json × List Char} :
    readElements (fuel + 1) depth earlier text = some result ↔
      ∃ value gap behind, readValue fuel depth text = some (value, gap ++ behind) ∧ Spaces gap ∧
        ((∃ others, behind = ',' :: others ∧
            readElements fuel depth (value :: earlier) others = some result) ∨
          ∃ rest, behind = ']' :: rest ∧ result = (.array (value :: earlier).reverse, rest)) := by
  rw [readElements]
  constructor
  · intro reads
    split at reads
    · cases reads
    · next value behind read =>
      obtain ⟨gap, parts, blank⟩ := exists_spaces behind
      rw [parts] at read
      refine ⟨value, gap, skipSpace behind, read, blank, ?_⟩
      split at reads
      · next others comma => exact .inl ⟨others, comma, reads⟩
      · next rest closed => exact .inr ⟨rest, closed, (Option.some.inj reads).symm⟩
      · cases reads
  · rintro ⟨value, gap, behind, read, blank, ⟨others, rfl, reads⟩ | ⟨rest, rfl, rfl⟩⟩
    · have comma : skipSpace (gap ++ ',' :: others) = ',' :: others :=
        (skipSpace_eq_cons_iff rfl).mpr ⟨gap, rfl, blank⟩
      simp only [read, comma, reads]
    · have closed : skipSpace (gap ++ ']' :: rest) = ']' :: rest :=
        (skipSpace_eq_cons_iff rfl).mpr ⟨gap, rfl, blank⟩
      simp only [read, closed]

/-- A member is read, and what stands behind it decides whether more are. -/
theorem readMembers_iff {fuel depth : Nat} {earlier : List (String × Json)} {text : List Char}
    {result : Json × List Char} :
    readMembers (fuel + 1) depth earlier text = some result ↔
      ∃ before quoted name back written value gap behind, text = before ++ '"' :: quoted ∧
        Spaces before ∧ readString quoted = some (name, back ++ ':' :: written) ∧ Spaces back ∧
        readValue fuel depth written = some (value, gap ++ behind) ∧ Spaces gap ∧
        ((∃ others, behind = ',' :: others ∧
            readMembers fuel depth ((name, value) :: earlier) others = some result) ∨
          ∃ rest, behind = '}' :: rest ∧
            result = (.object ((name, value) :: earlier).reverse, rest)) := by
  rw [readMembers]
  constructor
  · intro reads
    split at reads
    · next quoted opened =>
      obtain ⟨before, rfl, front⟩ := (skipSpace_eq_cons_iff rfl).mp opened
      split at reads
      · cases reads
      · next name behindName named =>
        split at reads
        · next written colon =>
          obtain ⟨back, rfl, blankBack⟩ := (skipSpace_eq_cons_iff rfl).mp colon
          split at reads
          · cases reads
          · next value behind read =>
            obtain ⟨gap, parts, blank⟩ := exists_spaces behind
            rw [parts] at read
            refine ⟨before, quoted, name, back, written, value, gap, skipSpace behind, rfl, front,
              named, blankBack, read, blank, ?_⟩
            split at reads
            · next others comma => exact .inl ⟨others, comma, reads⟩
            · next rest closed => exact .inr ⟨rest, closed, (Option.some.inj reads).symm⟩
            · cases reads
        · cases reads
    · cases reads
  · rintro ⟨before, quoted, name, back, written, value, gap, behind, rfl, front, named, blankBack,
      read, blank, continues⟩
    have opened : skipSpace (before ++ '"' :: quoted) = '"' :: quoted :=
      (skipSpace_eq_cons_iff rfl).mpr ⟨before, rfl, front⟩
    have colon : skipSpace (back ++ ':' :: written) = ':' :: written :=
      (skipSpace_eq_cons_iff rfl).mpr ⟨back, rfl, blankBack⟩
    rcases continues with ⟨others, rfl, reads⟩ | ⟨rest, rfl, rfl⟩
    · have comma : skipSpace (gap ++ ',' :: others) = ',' :: others :=
        (skipSpace_eq_cons_iff rfl).mpr ⟨gap, rfl, blank⟩
      simp only [opened, named, colon, read, comma, reads]
    · have closed : skipSpace (gap ++ '}' :: rest) = '}' :: rest :=
        (skipSpace_eq_cons_iff rfl).mpr ⟨gap, rfl, blank⟩
      simp only [opened, named, colon, read, closed]

/-! ## What is read is spelled -/

theorem SpellsScalar.spells {text : List Char} {value : Json} (spelled : SpellsScalar text value)
    (depth : Nat) : Spells depth text value := by
  cases depth with
  | zero => exact spelled
  | succ depth => exact .inl spelled

/-- What is read with so much fuel has a spelling. -/
structure Sound (fuel : Nat) : Prop where
  value : ∀ {depth text value rest}, readValue fuel depth text = some (value, rest) →
    ∃ gap front, text = gap ++ (front ++ rest) ∧ Spaces gap ∧ Spells depth front value
  elements : ∀ {depth earlier text value rest},
    readElements fuel depth earlier text = some (value, rest) →
      ∃ front elements, text = front ++ ']' :: rest ∧
        Separated (Padded (Spells depth)) front elements ∧
        value = .array (earlier.reverse ++ elements)
  members : ∀ {depth earlier text value rest},
    readMembers fuel depth earlier text = some (value, rest) →
      ∃ front members, text = front ++ '}' :: rest ∧
        Separated (SpellsMember (Spells depth)) front members ∧
        value = .object (earlier.reverse ++ members)

namespace Sound

variable {fuel depth : Nat} {text rest : List Char} {value : Json}

theorem elements_succ (sound : Sound fuel) {earlier : List Json}
    (reads : readElements (fuel + 1) depth earlier text = some (value, rest)) :
    ∃ front elements, text = front ++ ']' :: rest ∧
      Separated (Padded (Spells depth)) front elements ∧
      value = .array (earlier.reverse ++ elements) := by
  obtain ⟨first, gap, behind, read, blank, continues⟩ := readElements_iff.mp reads
  obtain ⟨before, front, rfl, blankBefore, spelled⟩ := sound.value read
  have padded : Padded (Spells depth) (before ++ (front ++ gap)) first :=
    .around blankBefore spelled blank
  rcases continues with ⟨others, rfl, further⟩ | ⟨rest, rfl, ended⟩
  · obtain ⟨more, elements, rfl, separated, rfl⟩ := sound.elements further
    exact ⟨_, first :: elements, by simp, .more padded separated, by simp⟩
  · obtain ⟨rfl, rfl⟩ := Prod.mk.inj ended
    exact ⟨_, [first], by simp, .last padded, by simp⟩

theorem members_succ (sound : Sound fuel) {earlier : List (String × Json)}
    (reads : readMembers (fuel + 1) depth earlier text = some (value, rest)) :
    ∃ front members, text = front ++ '}' :: rest ∧
      Separated (SpellsMember (Spells depth)) front members ∧
      value = .object (earlier.reverse ++ members) := by
  obtain ⟨before, quoted, name, back, written, first, gap, behind, rfl, blankBefore, named,
    blankBack, read, blank, continues⟩ := readMembers_iff.mp reads
  obtain ⟨spelling, characters, rfl, spelledName, rfl⟩ := readString_eq_some_iff.mp named
  obtain ⟨space, front, rfl, blankSpace, spelled⟩ := sound.value read
  have member : SpellsMember (Spells depth)
      (before ++ '"' :: (spelling ++ '"' :: (back ++ ':' :: (space ++ (front ++ gap)))))
      (String.ofList characters, first) :=
    .named blankBefore spelledName blankBack (.around blankSpace spelled blank)
  rcases continues with ⟨others, rfl, further⟩ | ⟨rest, rfl, ended⟩
  · obtain ⟨more, members, rfl, separated, rfl⟩ := sound.members further
    exact ⟨_, _ :: members, by simp, .more member separated, by simp⟩
  · obtain ⟨rfl, rfl⟩ := Prod.mk.inj ended
    exact ⟨_, [_], by simp, .last member, by simp⟩

theorem array_succ (sound : Sound fuel)
    (reads : readValue (fuel + 1) depth ('[' :: text) = some (value, rest)) :
    ∃ front, '[' :: text = front ++ rest ∧ Spells depth front value := by
  cases depth with
  | zero => cases reads
  | succ depth =>
    rcases readValue_array_iff.mp reads with ⟨gap, _, rfl, blank, ended⟩ | further
    · obtain ⟨rfl, rfl⟩ := Prod.mk.inj ended
      exact ⟨'[' :: (gap ++ [']']), by simp, .inr (.noElements blank)⟩
    · obtain ⟨front, elements, rfl, separated, rfl⟩ := sound.elements further
      exact ⟨'[' :: (front ++ [']']), by simp, .inr (.elements separated)⟩

theorem object_succ (sound : Sound fuel)
    (reads : readValue (fuel + 1) depth ('{' :: text) = some (value, rest)) :
    ∃ front, '{' :: text = front ++ rest ∧ Spells depth front value := by
  cases depth with
  | zero => cases reads
  | succ depth =>
    rcases readValue_object_iff.mp reads with ⟨gap, _, rfl, blank, ended⟩ | further
    · obtain ⟨rfl, rfl⟩ := Prod.mk.inj ended
      exact ⟨'{' :: (gap ++ ['}']), by simp, .inr (.noMembers blank)⟩
    · obtain ⟨front, members, rfl, separated, rfl⟩ := sound.members further
      exact ⟨'{' :: (front ++ ['}']), by simp, .inr (.members separated)⟩

theorem value_succ (sound : Sound fuel)
    (reads : readValue (fuel + 1) depth text = some (value, rest)) :
    ∃ gap front, text = gap ++ (front ++ rest) ∧ Spaces gap ∧ Spells depth front value := by
  obtain ⟨gap, parts, blank⟩ := exists_spaces text
  suffices spelled : ∃ front, skipSpace text = front ++ rest ∧ Spells depth front value by
    obtain ⟨front, found, spelled⟩ := spelled
    exact ⟨gap, front, found ▸ parts, blank, spelled⟩
  have again := reads
  rw [← readValue_skipSpace] at again
  rw [readValue] at reads
  split at reads
  · next behind opened =>
    obtain ⟨⟨content, rest⟩, read, same⟩ := Option.map_eq_some_iff.mp reads
    obtain ⟨rfl, rfl⟩ := Prod.mk.inj same
    obtain ⟨front, characters, rfl, spelled, rfl⟩ := readString_eq_some_iff.mp read
    exact ⟨'"' :: (front ++ ['"']), by simp [opened], (SpellsScalar.string spelled).spells depth⟩
  · next behind opened =>
    rw [opened] at again ⊢
    exact sound.array_succ again
  · next behind opened =>
    rw [opened] at again ⊢
    exact sound.object_succ again
  · next behind opened =>
    obtain ⟨⟨number, rest⟩, read, same⟩ := Option.map_eq_some_iff.mp reads
    obtain ⟨rfl, rfl⟩ := Prod.mk.inj same
    obtain ⟨written, literal, rfl, spelled, signed, kept⟩ := exists_of_readNumber read
    exact ⟨'-' :: written, opened, (SpellsScalar.negative spelled signed kept).spells depth⟩
  · next behind opened =>
    obtain ⟨rest, read, same⟩ := Option.map_eq_some_iff.mp reads
    obtain ⟨rfl, rfl⟩ := Prod.mk.inj same
    rw [behind?_eq_some_iff.mp read] at opened
    exact ⟨_, opened, SpellsScalar.null.spells depth⟩
  · next behind opened =>
    obtain ⟨rest, read, same⟩ := Option.map_eq_some_iff.mp reads
    obtain ⟨rfl, rfl⟩ := Prod.mk.inj same
    rw [behind?_eq_some_iff.mp read] at opened
    exact ⟨_, opened, SpellsScalar.yes.spells depth⟩
  · next behind opened =>
    obtain ⟨rest, read, same⟩ := Option.map_eq_some_iff.mp reads
    obtain ⟨rfl, rfl⟩ := Prod.mk.inj same
    rw [behind?_eq_some_iff.mp read] at opened
    exact ⟨_, opened, SpellsScalar.no.spells depth⟩
  · obtain ⟨⟨number, rest⟩, read, same⟩ := Option.map_eq_some_iff.mp reads
    obtain ⟨rfl, rfl⟩ := Prod.mk.inj same
    obtain ⟨written, literal, found, spelled, unsigned, kept⟩ := exists_of_readNumber read
    exact ⟨written, found, (SpellsScalar.positive spelled unsigned kept).spells depth⟩

end Sound

theorem sound (fuel : Nat) : Sound fuel := by
  induction fuel with
  | zero => exact ⟨nofun, nofun, nofun⟩
  | succ fuel inductionHypothesis =>
    exact ⟨inductionHypothesis.value_succ, inductionHypothesis.elements_succ,
      inductionHypothesis.members_succ⟩

/-! ## What is spelled is read -/

theorem SpellsUnsigned.exists_cons {text : List Char} {literal : Literal}
    (spelled : SpellsUnsigned text literal) :
    ∃ first others, text = first :: others ∧ first.isDigit = true := by
  cases spelled with
  | parts written =>
    obtain ⟨first, others, rfl⟩ := List.exists_cons_of_ne_nil written.nonempty
    exact ⟨first, _, rfl, written.ascii first List.mem_cons_self⟩

/-- A value that starts with a digit is a number. -/
theorem readValue_digit {first : Char} (ascii : first.isDigit = true) (fuel depth : Nat)
    (text : List Char) :
    readValue (fuel + 1) depth (first :: text) =
      (readNumber false (first :: text)).map fun read => (.number read.1, read.2) := by
  obtain ⟨digit, small, rfl⟩ := Numeral.exists_digitChar ascii
  interval_cases digit <;> rfl

theorem SpellsScalar.readValue {front : List Char} {value : Json}
    (spelled : SpellsScalar front value) (fuel depth : Nat) {rest : List Char}
    (ends : continuesNumber rest = false) :
    readValue (fuel + 1) depth (front ++ rest) = some (value, rest) := by
  cases spelled with
  | null => rfl
  | yes => rfl
  | no => rfl
  | @string text characters spelled =>
    have read : readString (text ++ '"' :: rest) = some (String.ofList characters, rest) :=
      readString_eq_some_iff.mpr ⟨text, characters, rfl, spelled, rfl⟩
    have opened : Json.readValue (fuel + 1) depth ('"' :: (text ++ '"' :: rest)) =
        (readString (text ++ '"' :: rest)).map fun read => (.string read.1, read.2) := rfl
    simpa [read] using opened
  | positive spelled unsigned kept =>
    have read := spelled.readNumber ends
    rw [unsigned, kept] at read
    obtain ⟨first, others, rfl, digit⟩ := spelled.exists_cons
    rw [List.cons_append] at read ⊢
    rw [readValue_digit digit, read]
    rfl
  | @negative text literal number spelled signed kept =>
    have read := spelled.readNumber ends
    rw [signed, kept] at read
    have opened : Json.readValue (fuel + 1) depth ('-' :: (text ++ rest)) =
        (readNumber true (text ++ rest)).map fun read => (.number read.1, read.2) := rfl
    rw [List.cons_append, opened, read]
    rfl

/-- Each text that spells a value in a given way is read as this value wherever it stands in
front of a text that does not go on with it. As much fuel as it has characters is enough. -/
structure Complete (spelled : List Char → Json → Prop) (depth : Nat) : Prop where
  value : ∀ {front value}, spelled front value → ∀ {fuel rest}, front.length ≤ fuel →
    continuesNumber rest = false → readValue (fuel + 1) depth (front ++ rest) = some (value, rest)

/-- White space does not go on with a number, nor does a comma or a closing bracket or brace
behind it. -/
theorem not_continuesNumber {gap : List Char} (blank : Spaces gap) {rest : List Char}
    (ends : continuesNumber rest = false) : continuesNumber (gap ++ rest) = false := by
  cases gap with
  | nil => exact ends
  | cons character gap =>
    have space := blank character List.mem_cons_self
    simp only [isSpace, Bool.or_eq_true, beq_iff_eq] at space
    rcases space with ((rfl | rfl) | rfl) | rfl <;> rfl

namespace Complete

variable {spelled : List Char → Json → Prop} {depth : Nat} {front text : List Char} {value : Json}

/-- A value is read up to the white space behind it. -/
theorem padded (complete : Complete spelled depth) (around : Padded spelled text value)
    {fuel : Nat} (enough : text.length ≤ fuel) {rest : List Char}
    (ends : continuesNumber rest = false) :
    ∃ gap, readValue (fuel + 1) depth (text ++ rest) = some (value, gap ++ rest) ∧ Spaces gap := by
  cases around with
  | @around before text behind _ front here back =>
    simp only [List.length_append] at enough
    refine ⟨behind, ?_, back⟩
    rw [List.append_assoc, List.append_assoc, readValue_spaces front]
    exact complete.value here (by omega) (not_continuesNumber back ends)

theorem elements (complete : Complete spelled depth) {elements : List Json}
    (separated : Separated (Padded spelled) text elements) {fuel : Nat}
    (enough : text.length ≤ fuel) (earlier : List Json) (rest : List Char) :
    readElements (fuel + 2) depth earlier (text ++ ']' :: rest) =
      some (.array (earlier.reverse ++ elements), rest) := by
  induction separated generalizing fuel earlier with
  | last here =>
    obtain ⟨gap, read, blank⟩ := complete.padded here enough
      (show continuesNumber (']' :: rest) = false from rfl)
    exact readElements_iff.mpr ⟨_, gap, _, read, blank, .inr ⟨rest, rfl, by simp⟩⟩
  | @more text others element elements here later inductionHypothesis =>
    simp only [List.length_append, List.length_cons] at enough
    obtain ⟨fuel, rfl⟩ := Nat.exists_eq_add_of_le' (show 1 ≤ fuel by omega)
    have further := inductionHypothesis (show others.length ≤ fuel by omega) (element :: earlier)
    have long : text.length ≤ fuel + 1 := by omega
    obtain ⟨gap, read, blank⟩ := complete.padded here long
      (show continuesNumber (',' :: (others ++ ']' :: rest)) = false from rfl)
    rw [List.append_assoc, List.cons_append]
    refine readElements_iff.mpr ⟨element, gap, _, read, blank, .inl ⟨_, rfl, ?_⟩⟩
    rw [further]
    simp

/-- A member is read up to the white space behind its value. -/
theorem member (complete : Complete spelled depth) {entry : String × Json}
    (named : SpellsMember spelled text entry) {fuel : Nat} (enough : text.length ≤ fuel)
    {rest : List Char} (ends : continuesNumber rest = false) :
    ∃ before quoted back written gap, text ++ rest = before ++ '"' :: quoted ∧ Spaces before ∧
      readString quoted = some (entry.1, back ++ ':' :: written) ∧ Spaces back ∧
      readValue (fuel + 1) depth written = some (entry.2, gap ++ rest) ∧ Spaces gap := by
  cases named with
  | @named before name characters back written value front quoted blank here =>
    simp only [List.length_append, List.length_cons] at enough
    have long : written.length ≤ fuel := by omega
    obtain ⟨gap, read, space⟩ := complete.padded here long ends
    have named : readString (name ++ '"' :: (back ++ ':' :: (written ++ rest))) =
        some (String.ofList characters, back ++ ':' :: (written ++ rest)) :=
      readString_eq_some_iff.mpr ⟨name, characters, rfl, quoted, rfl⟩
    exact ⟨before, _, back, _, gap, by simp, front, named, blank, read, space⟩

theorem members (complete : Complete spelled depth) {members : List (String × Json)}
    (separated : Separated (SpellsMember spelled) text members) {fuel : Nat}
    (enough : text.length ≤ fuel) (earlier : List (String × Json)) (rest : List Char) :
    readMembers (fuel + 2) depth earlier (text ++ '}' :: rest) =
      some (.object (earlier.reverse ++ members), rest) := by
  induction separated generalizing fuel earlier with
  | last here =>
    obtain ⟨before, quoted, back, written, gap, parts, front, named, blank, read, space⟩ :=
      complete.member here enough (show continuesNumber ('}' :: rest) = false from rfl)
    exact readMembers_iff.mpr ⟨before, quoted, _, back, written, _, gap, _, parts, front, named,
      blank, read, space, .inr ⟨rest, rfl, by simp⟩⟩
  | @more text others member members here later inductionHypothesis =>
    simp only [List.length_append, List.length_cons] at enough
    obtain ⟨fuel, rfl⟩ := Nat.exists_eq_add_of_le' (show 1 ≤ fuel by omega)
    have further := inductionHypothesis (show others.length ≤ fuel by omega) (member :: earlier)
    have long : text.length ≤ fuel + 1 := by omega
    obtain ⟨before, quoted, back, written, gap, parts, front, named, blank, read, space⟩ :=
      complete.member here long
        (show continuesNumber (',' :: (others ++ '}' :: rest)) = false from rfl)
    rw [List.append_assoc, List.cons_append]
    refine readMembers_iff.mpr ⟨before, quoted, _, back, written, _, gap, _, parts, front, named,
      blank, read, space, .inl ⟨_, rfl, ?_⟩⟩
    rw [further]
    simp

/-- A container is read up to its closing bracket or brace, whatever stands behind it. -/
theorem container (complete : Complete spelled depth)
    (holds : SpellsContainer spelled front value) {fuel : Nat} (enough : front.length ≤ fuel)
    (rest : List Char) :
    readValue (fuel + 1) (depth + 1) (front ++ rest) = some (value, rest) := by
  cases holds with
  | @noElements gap blank =>
    rw [List.cons_append, List.append_assoc]
    exact readValue_array_iff.mpr (.inl ⟨gap, rest, rfl, blank, rfl⟩)
  | @elements text elements each =>
    simp only [List.length_append, List.length_cons, List.length_nil] at enough
    obtain ⟨fuel, rfl⟩ := Nat.exists_eq_add_of_le' (show 2 ≤ fuel by omega)
    rw [List.cons_append, List.append_assoc]
    exact readValue_array_iff.mpr (.inr (complete.elements each (by omega) [] rest))
  | @noMembers gap blank =>
    rw [List.cons_append, List.append_assoc]
    exact readValue_object_iff.mpr (.inl ⟨gap, rest, rfl, blank, rfl⟩)
  | @members text members each =>
    simp only [List.length_append, List.length_cons, List.length_nil] at enough
    obtain ⟨fuel, rfl⟩ := Nat.exists_eq_add_of_le' (show 2 ≤ fuel by omega)
    rw [List.cons_append, List.append_assoc]
    exact readValue_object_iff.mpr (.inr (complete.members each (by omega) [] rest))

end Complete

theorem complete (depth : Nat) : Complete (Spells depth) depth := by
  induction depth with
  | zero => exact ⟨fun spelled _ _ _ ends => SpellsScalar.readValue spelled _ 0 ends⟩
  | succ depth inductionHypothesis =>
    refine ⟨?_⟩
    rintro front value (scalar | container) fuel rest enough ends
    · exact scalar.readValue fuel (depth + 1) ends
    · exact inductionHypothesis.container container enough rest

/-! ## Whole texts -/

/-- A text is read as a value exactly if it spells this value, with white space around it at
most. -/
theorem read_eq_some_iff {text : List Char} {value : Json} :
    read text = some value ↔ Padded (Spells largestDepth) text value := by
  constructor
  · intro reads
    obtain ⟨⟨value, rest⟩, front, ended⟩ := Option.bind_eq_some_iff.mp reads
    obtain ⟨gap, written, rfl, blank, spelled⟩ := (sound _).value front
    dsimp only at ended
    split at ended
    · next nothing =>
      obtain rfl := Option.some.inj ended
      obtain ⟨space, parts, behind⟩ := exists_spaces rest
      rw [List.isEmpty_iff.mp nothing, List.append_nil] at parts
      exact .around blank spelled (parts ▸ behind)
    · cases ended
  · intro spelled
    have front := (complete largestDepth).padded spelled
      (show text.length ≤ 2 * text.length + 1 by omega) (show continuesNumber [] = false from rfl)
    rw [List.append_nil] at front
    obtain ⟨gap, front, blank⟩ := front
    rw [List.append_nil] at front
    have nothing : skipSpace gap = [] := List.dropWhile_eq_nil_iff.mpr blank
    rw [read, readFront, front]
    simp [nothing]

/-- An object at the front of a text is read exactly if its spelling stands there, whatever
stands behind it. -/
theorem readFront_object_iff {text rest : List Char} {members : List (String × Json)} :
    readFront text = some (.object members, rest) ↔
      ∃ gap front, text = gap ++ (front ++ rest) ∧ Spaces gap ∧
        Spells largestDepth front (.object members) := by
  constructor
  · exact fun reads => (sound _).value reads
  · rintro ⟨gap, front, rfl, blank, spelled⟩
    have container : SpellsContainer (Spells 126) front (.object members) := by
      rcases spelled with scalar | container
      · cases scalar
      · exact container
    rw [readFront, readValue_spaces blank]
    refine (complete 126).container container ?_ rest
    simp only [List.length_append]
    omega

end DebugConsole.Json
