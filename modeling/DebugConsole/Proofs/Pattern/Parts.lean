import DebugConsole.Debugger.Basic
import DebugConsole.Proofs.Pattern.Spelling

/-!
# Patterns made of parts

The patterns of the debuggers are parts in sequence: given characters, sets, runs and
groups. This module takes a sequence apart, part by part, for what it spells and for
the outcomes of a search, and puts it together again.
-/

namespace DebugConsole.Pattern.Node

/-! ## Taking a sequence apart -/

theorem spells_ofList_nil {read rest : List Char} :
    (ofList []).Spells read rest ↔ read = [] := Iff.rfl

theorem spells_ofList_cons {node : Node} {nodes : List Node} {read rest : List Char} :
    (ofList (node :: nodes)).Spells read rest ↔ ∃ first second, read = first ++ second ∧
      node.Spells first (second ++ rest) ∧ (ofList nodes).Spells second rest := by
  cases nodes with
  | nil => simp [ofList, Spells]
  | cons other nodes => rfl

theorem spells_ofList_append {nodes later : List Node} {read rest : List Char} :
    (ofList (nodes ++ later)).Spells read rest ↔ ∃ first second, read = first ++ second ∧
      (ofList nodes).Spells first (second ++ rest) ∧ (ofList later).Spells second rest := by
  induction nodes generalizing read with
  | nil => simp [spells_ofList_nil]
  | cons node nodes inductionHypothesis =>
    simp only [List.cons_append, spells_ofList_cons, inductionHypothesis]
    constructor
    · rintro ⟨first, _, rfl, spells, second, third, rfl, spells', spells''⟩
      exact ⟨first ++ second, third, by simp, ⟨first, second, rfl, by simpa using spells, spells'⟩,
        spells''⟩
    · rintro ⟨_, third, rfl, ⟨first, second, rfl, spells, spells'⟩, spells''⟩
      exact ⟨first, second ++ third, by simp, by simpa using spells, second, third, rfl, spells',
        spells''⟩

theorem spells_char {character : Char} {read rest : List Char} :
    (char character).Spells read rest ↔ read = [character] := by
  simp [char, Spells]

theorem spells_characters {text : String} {read rest : List Char} :
    (ofList (characters text)).Spells read rest ↔ read = text.toList := by
  unfold characters
  induction text.toList generalizing read with
  | nil => exact spells_ofList_nil
  | cons character text inductionHypothesis =>
    simp only [List.map_cons, spells_ofList_cons, spells_char, inductionHypothesis]
    constructor
    · rintro ⟨_, _, rfl, rfl, rfl⟩
      rfl
    · rintro rfl
      exact ⟨[character], text, rfl, rfl, rfl⟩

theorem mem_outcomes_ofList_cons {node : Node} {nodes : List Node} {progress reached : Progress} :
    reached ∈ (ofList (node :: nodes)).outcomes progress ↔
      ∃ middle ∈ node.outcomes progress, reached ∈ (ofList nodes).outcomes middle := by
  cases nodes with
  | nil => simp [ofList, outcomes]
  | cons other nodes => exact List.mem_flatMap

theorem mem_outcomes_ofList_append {nodes later : List Node} {progress reached : Progress} :
    reached ∈ (ofList (nodes ++ later)).outcomes progress ↔
      ∃ middle ∈ (ofList nodes).outcomes progress, reached ∈ (ofList later).outcomes middle := by
  induction nodes generalizing progress with
  | nil => simp [ofList, outcomes]
  | cons node nodes inductionHypothesis =>
    simp only [List.cons_append, mem_outcomes_ofList_cons, inductionHypothesis]
    constructor
    · rintro ⟨middle, first, middle', second, third⟩
      exact ⟨middle', ⟨middle, first, second⟩, third⟩
    · rintro ⟨middle', ⟨middle, first, second⟩, third⟩
      exact ⟨middle, first, middle', second, third⟩

/-! ## Writing a sequence -/

/-- Parts and what they spell, put together. -/
theorem Spells.append {nodes later : List Node} {first second rest : List Char}
    (spells : (ofList nodes).Spells first (second ++ rest))
    (spells' : (ofList later).Spells second rest) :
    (ofList (nodes ++ later)).Spells (first ++ second) rest :=
  spells_ofList_append.mpr ⟨first, second, rfl, spells, spells'⟩

theorem Spells.cons {node : Node} {nodes : List Node} {first second rest : List Char}
    (spells : node.Spells first (second ++ rest)) (spells' : (ofList nodes).Spells second rest) :
    (ofList (node :: nodes)).Spells (first ++ second) rest :=
  spells_ofList_cons.mpr ⟨first, second, rfl, spells, spells'⟩

theorem Spells.cons_char {character : Char} {nodes : List Node} {second rest : List Char}
    (spells : (ofList nodes).Spells second rest) :
    (ofList (char character :: nodes)).Spells (character :: second) rest :=
  spells_ofList_cons.mpr ⟨[character], second, rfl, spells_char.mpr rfl, spells⟩

theorem characters_spells (text : String) (rest : List Char) :
    (ofList (characters text)).Spells text.toList rest :=
  spells_characters.mpr rfl

/-- A run of characters of a set ends at the first character outside of it. -/
theorem run_unique (members : CharSet) {run run' rest rest' : List Char} {stop stop' : Char}
    (inside : ∀ character ∈ run, members.contains character = true)
    (inside' : ∀ character ∈ run', members.contains character = true)
    (outside : members.contains stop = false) (outside' : members.contains stop' = false)
    (same : run ++ stop :: rest = run' ++ stop' :: rest') :
    run = run' ∧ stop = stop' ∧ rest = rest' := by
  induction run generalizing run' with
  | nil =>
    cases run' with
    | nil => simpa using same
    | cons character run' =>
      obtain ⟨rfl, -⟩ := List.cons.inj same
      rw [inside' stop List.mem_cons_self] at outside
      cases outside
  | cons character run inductionHypothesis =>
    cases run' with
    | nil =>
      obtain ⟨rfl, -⟩ := List.cons.inj same
      rw [inside character List.mem_cons_self] at outside'
      cases outside'
    | cons other run' =>
      obtain ⟨rfl, tails⟩ := List.cons.inj same
      obtain ⟨rfl, stops, rests⟩ := inductionHypothesis
        (fun member within => inside member (List.mem_cons_of_mem _ within))
        (fun member within => inside' member (List.mem_cons_of_mem _ within)) tails
      exact ⟨rfl, stops, rests⟩

end DebugConsole.Pattern.Node
