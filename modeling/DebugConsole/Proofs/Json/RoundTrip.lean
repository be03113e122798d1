import DebugConsole.Json.Writer
import DebugConsole.Proofs.Json.Exactness

/-!
# Written values are read back

The compact text of a value spells this value, so it is read as this value, and what stands
behind it is left (`Json.readFront_written`). Strings are read back whatever their characters
are. What is asked of the value is that its containers are nested no deeper than the reader
follows them, and that its numbers are read back (`Json.Legible`).
-/

namespace DebugConsole.Json

/-! ## Strings -/

theorem hexValue?_hexDigit : ∀ value < 16, hexValue? (hexDigit value) = some value := by decide

/-- The code of a control character is spelled by its last two digits. -/
theorem spellsUnit_control {code : Nat} (control : code < 0x20) :
    SpellsUnit ['0', '0', hexDigit (code / 16), hexDigit (code % 16)] code := by
  have zero : hexValue? '0' = some 0 := rfl
  have high : hexValue? (hexDigit (code / 16)) = some (code / 16) :=
    hexValue?_hexDigit _ (by omega)
  have low : hexValue? (hexDigit (code % 16)) = some (code % 16) :=
    hexValue?_hexDigit _ (by omega)
  have unit : ((0 * 16 + 0) * 16 + code / 16) * 16 + code % 16 = code := by omega
  have spelled := SpellsUnit.digits zero zero high low
  rwa [unit] at spelled

/-- A character is written as it is, or as an escape that stands for it. -/
theorem spellsChar_escapeChar (character : Char) : SpellsChar (escapeChar character) character := by
  unfold escapeChar
  split
  case h_8 quote backslash _ _ _ _ _ =>
    split
    · next control =>
      have code : SpellsChar ('\\' :: 'u' :: _) (Char.ofNat character.toNat) :=
        .code (spellsUnit_control control) (by omega)
      rwa [Char.ofNat_toNat] at code
    · next printed => exact .plain quote backslash (Nat.le_of_not_lt printed)
  all_goals exact .short (by decide)

theorem spellsChars_written (text : List Char) : SpellsChars (text.flatMap escapeChar) text := by
  induction text with
  | nil => exact .nil
  | cons character text inductionHypothesis =>
    rw [List.flatMap_cons]
    exact .cons (spellsChar_escapeChar character) inductionHypothesis

theorem writeString_eq (text : String) :
    writeString text = '"' :: (text.toList.flatMap escapeChar ++ ['"']) := rfl

/-! ## Elements and members -/

section

variable {spelled : List Char → Json → Prop}

/-- A text of a value has no white space around it. -/
theorem Padded.alone {text : List Char} {value : Json} (here : spelled text value) :
    Padded spelled text value := by
  have padded : Padded spelled ([] ++ (text ++ [])) value := .around spaces_nil here spaces_nil
  simpa using padded

/-- Written elements are separated by commas. -/
theorem separated_writeElements {first : Json} {later : List Json}
    (each : ∀ element ∈ first :: later, spelled element.writeChars element) :
    ∃ text, first.writeChars ++ writeElements later = text ++ [']'] ∧
      Separated (Padded spelled) text (first :: later) := by
  induction later generalizing first with
  | nil => exact ⟨_, rfl, .last (.alone (each first List.mem_cons_self))⟩
  | cons second later inductionHypothesis =>
    obtain ⟨here, others⟩ := List.forall_mem_cons.mp each
    obtain ⟨text, parts, separated⟩ := inductionHypothesis others
    refine ⟨_, ?_, .more (.alone here) separated⟩
    rw [writeElements, List.cons_append, parts]
    simp

theorem spellsContainer_array {elements : List Json}
    (each : ∀ element ∈ elements, spelled element.writeChars element) :
    SpellsContainer spelled (writeChars (.array elements)) (.array elements) := by
  cases elements with
  | nil => exact SpellsContainer.noElements spaces_nil
  | cons first later =>
    obtain ⟨text, parts, separated⟩ := separated_writeElements each
    rw [writeChars, List.cons_append, parts]
    exact .elements separated

theorem spellsMember_written (name : String) {value : Json}
    (here : spelled value.writeChars value) :
    SpellsMember spelled (writeString name ++ ':' :: value.writeChars) (name, value) := by
  have member : SpellsMember spelled
      ([] ++ '"' :: (name.toList.flatMap escapeChar ++ '"' :: ([] ++ ':' :: value.writeChars)))
      (String.ofList name.toList, value) :=
    .named spaces_nil (spellsChars_written name.toList) spaces_nil (.alone here)
  simpa [writeString_eq] using member

/-- Written members are separated by commas. -/
theorem separated_writeMembers {name : String} {first : Json} {later : List (String × Json)}
    (each : ∀ member ∈ (name, first) :: later, spelled member.2.writeChars member.2) :
    ∃ text, writeString name ++ ':' :: (first.writeChars ++ writeMembers later) = text ++ ['}'] ∧
      Separated (SpellsMember spelled) text ((name, first) :: later) := by
  induction later generalizing name first with
  | nil =>
    exact ⟨_, by simp [writeMembers], .last (spellsMember_written name (each _ List.mem_cons_self))⟩
  | cons member later inductionHypothesis =>
    obtain ⟨second, value⟩ := member
    obtain ⟨here, others⟩ := List.forall_mem_cons.mp each
    obtain ⟨text, parts, separated⟩ := inductionHypothesis others
    refine ⟨_, ?_, .more (spellsMember_written name here) separated⟩
    rw [writeMembers, List.append_assoc, List.cons_append, List.cons_append, parts]
    simp

theorem spellsContainer_object {members : List (String × Json)}
    (each : ∀ member ∈ members, spelled member.2.writeChars member.2) :
    SpellsContainer spelled (writeChars (.object members)) (.object members) := by
  cases members with
  | nil => exact SpellsContainer.noMembers spaces_nil
  | cons member later =>
    obtain ⟨name, first⟩ := member
    obtain ⟨text, parts, separated⟩ := separated_writeMembers each
    have written : writeChars (.object ((name, first) :: later)) = '{' :: (text ++ ['}']) := by
      rw [← parts]
      simp [writeChars]
    rw [written]
    exact .members separated

end

/-! ## Values -/

/-- A value is read back in front of any text that does not go on with it. As much fuel
as its text has characters is enough. -/
def ReadsBack (depth : Nat) (value : Json) : Prop :=
  ∀ fuel rest, value.writeChars.length ≤ fuel → continuesNumber rest = false →
    readValue (fuel + 1) depth (value.writeChars ++ rest) = some (value, rest)

/-- Values whose containers are nested so deep at most, and whose numbers are read back. -/
inductive Legible : (depth : Nat) → Json → Prop where
  | null {depth} : Legible depth .null
  | bool {depth} (value : Bool) : Legible depth (.bool value)
  | number {depth} {value : Number} (readsBack : ReadsBack depth (.number value)) :
      Legible depth (.number value)
  | string {depth} (value : String) : Legible depth (.string value)
  | array {depth} {elements : List Json} (each : ∀ element ∈ elements, Legible depth element) :
      Legible (depth + 1) (.array elements)
  | object {depth} {members : List (String × Json)}
      (each : ∀ member ∈ members, Legible depth member.2) : Legible (depth + 1) (.object members)

/-- A container is read back if what it holds is. -/
theorem SpellsContainer.readsBack {depth : Nat} {value : Json}
    (container : SpellsContainer (fun text value => text = value.writeChars ∧ ReadsBack depth value)
      value.writeChars value) : ReadsBack (depth + 1) value := by
  have complete : Complete (fun text value => text = value.writeChars ∧ ReadsBack depth value)
      depth := by
    refine ⟨?_⟩
    rintro _ value ⟨rfl, readsBack⟩ fuel rest enough ends
    exact readsBack fuel rest enough ends
  exact fun fuel rest enough _ => complete.container container enough rest

theorem Legible.readsBack {depth : Nat} {value : Json} (legible : Legible depth value) :
    ReadsBack depth value := by
  induction legible with
  | null => exact fun fuel rest _ ends => SpellsScalar.null.readValue fuel _ ends
  | bool value =>
    cases value with
    | true => exact fun fuel rest _ ends => SpellsScalar.yes.readValue fuel _ ends
    | false => exact fun fuel rest _ ends => SpellsScalar.no.readValue fuel _ ends
  | number readsBack => exact readsBack
  | string value =>
    intro fuel rest _ ends
    have spelled := SpellsScalar.string (spellsChars_written value.toList)
    rw [String.ofList_toList] at spelled
    exact spelled.readValue fuel _ ends
  | array _ inductionHypothesis =>
    exact SpellsContainer.readsBack
      (spellsContainer_array fun element member => ⟨rfl, inductionHypothesis element member⟩)
  | object _ inductionHypothesis =>
    exact SpellsContainer.readsBack
      (spellsContainer_object fun member inside => ⟨rfl, inductionHypothesis member inside⟩)

/-- The text of a legible value is read as this value, up to the end of the text. -/
theorem readFront_written {value : Json} (legible : Legible largestDepth value)
    {rest : List Char} (ends : continuesNumber rest = false) :
    readFront (value.writeChars ++ rest) = some (value, rest) :=
  legible.readsBack _ rest (by rw [List.length_append]; omega) ends

/-- The text of a legible value is read as this value. -/
theorem read_written {value : Json} (legible : Legible largestDepth value) :
    read value.writeChars = some value := by
  have front := readFront_written legible (show continuesNumber [] = false from rfl)
  rw [List.append_nil] at front
  rw [read, front]
  rfl

end DebugConsole.Json
