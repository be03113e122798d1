import DebugConsole.Debugger.Command

/-!
# Commands put together

A `Template` is a text cut at its holes. Every text is cut in exactly one way
(`cuts_iff`), which is said without the two functions that count and fill the places of a
text. A command is then the pieces of its template with the arguments between them, or the
number of its holes is told (`Debugger.format_fills`).
-/

namespace DebugConsole

/-- The place of an argument. -/
def hole : List Char := ['{', '}']

/-- The pieces of a text between its holes, each but the first behind a hole. -/
structure Template where
  first : List Char
  later : List (List Char)

namespace Template

/-- How many holes there are. -/
def holes (template : Template) : Nat := template.later.length

/-- The pieces with a hole in front of each but the first. -/
def text (template : Template) : List Char := template.first ++ template.later.flatMap (hole ++ ·)

/-- The pieces with an argument in front of each but the first. -/
def filled (template : Template) (arguments : List String) : List Char :=
  template.first ++
    (List.zipWith (fun argument piece => argument.toList ++ piece) arguments template.later).flatten

/-- The pieces are those of a text, and there is no hole in any of them. -/
structure Cuts (template : Template) (text : List Char) : Prop where
  text_eq : template.text = text
  solid : ∀ piece ∈ template.first :: template.later, ¬ hole <:+: piece

variable {template : Template} {rest : List Char}

theorem cuts_nil_iff : template.Cuts [] ↔ template = ⟨[], []⟩ := by
  constructor
  · rintro ⟨shape, -⟩
    obtain ⟨first, later⟩ := template
    obtain ⟨rfl, none⟩ := List.append_eq_nil_iff.mp shape
    cases later with
    | nil => rfl
    | cons piece later => cases none
  · rintro rfl
    exact ⟨rfl, by simp [hole]⟩

/-- A text with a hole in front has no characters in front of it. -/
theorem cuts_hole_iff :
    template.Cuts ('{' :: '}' :: rest) ↔
      ∃ behind : Template, behind.Cuts rest ∧ template = ⟨[], behind.first :: behind.later⟩ := by
  constructor
  · rintro ⟨shape, solid⟩
    obtain ⟨first, later⟩ := template
    have whole : ¬ hole <:+: first := solid first List.mem_cons_self
    match first, later with
    | [], [] => cases shape
    | [], piece :: later =>
      refine ⟨⟨piece, later⟩, ⟨?_, fun other member => solid other (.tail _ member)⟩, rfl⟩
      simpa [text, hole] using shape
    | [character], [] => cases shape
    | [character], piece :: later => cases shape
    | character :: next :: more, later =>
      injection shape with same shape
      injection shape with same' _
      subst same same'
      exact absurd (List.prefix_append hole more).isInfix whole
  · rintro ⟨behind, cuts, rfl⟩
    refine ⟨?_, fun piece member => ?_⟩
    · rw [← cuts.text_eq]
      rfl
    · rcases List.mem_cons.mp member with rfl | inside
      · simp [hole]
      · exact cuts.solid piece inside

/-- A character that no hole starts with belongs to the first piece. -/
theorem cuts_cons_iff {character : Char} (apart : ¬ hole <+: character :: rest) :
    template.Cuts (character :: rest) ↔
      ∃ behind : Template, behind.Cuts rest ∧
        template = ⟨character :: behind.first, behind.later⟩ := by
  constructor
  · rintro ⟨shape, solid⟩
    obtain ⟨first, later⟩ := template
    match first, later with
    | [], [] => cases shape
    | [], piece :: later =>
      exact absurd ⟨piece ++ later.flatMap (hole ++ ·), by simpa [text] using shape⟩ apart
    | letter :: first, later =>
      injection shape with same shape
      subst same
      refine ⟨⟨first, later⟩, ⟨shape, fun piece member => ?_⟩, rfl⟩
      rcases List.mem_cons.mp member with rfl | inside
      · exact fun within => solid _ List.mem_cons_self (List.infix_cons within)
      · exact solid piece (.tail _ inside)
  · rintro ⟨behind, cuts, rfl⟩
    have shape : text ⟨character :: behind.first, behind.later⟩ = character :: rest :=
      congrArg (character :: ·) cuts.text_eq
    refine ⟨shape, fun piece member => ?_⟩
    rcases List.mem_cons.mp member with rfl | inside
    · intro within
      rcases List.infix_cons_iff.mp within with front | deeper
      · exact apart (shape ▸ front.trans (List.prefix_append _ _))
      · exact cuts.solid _ List.mem_cons_self deeper
    · exact cuts.solid piece (.tail _ inside)

/-- The condition under which counting and filling take a single character. -/
theorem not_hole_in_front {character : Char}
    (apart : ∀ behind, character = '{' → rest = '}' :: behind → False) :
    ¬ hole <+: character :: rest := by
  rintro ⟨behind, shape⟩
  injection shape with same shape
  exact apart behind same.symm shape.symm

/-- Every text is cut at its holes in exactly one way. -/
theorem exists_cuts_iff (text : List Char) :
    ∃ template : Template, ∀ other : Template, other.Cuts text ↔ other = template := by
  induction text using Debugger.places.induct with
  | case1 rest inductionHypothesis =>
    obtain ⟨behind, only⟩ := inductionHypothesis
    refine ⟨⟨[], behind.first :: behind.later⟩, fun other => ?_⟩
    simp only [cuts_hole_iff, only, exists_eq_left]
  | case2 character rest apart inductionHypothesis =>
    obtain ⟨behind, only⟩ := inductionHypothesis
    refine ⟨⟨character :: behind.first, behind.later⟩, fun other => ?_⟩
    simp only [cuts_cons_iff (not_hole_in_front apart), only, exists_eq_left]
  | case3 => exact ⟨⟨[], []⟩, fun other => cuts_nil_iff⟩

/-- Counting the places of a text counts its holes. -/
theorem Cuts.places_eq {text : List Char} (cuts : template.Cuts text) :
    Debugger.places text = template.holes := by
  induction text using Debugger.places.induct generalizing template with
  | case1 rest inductionHypothesis =>
    obtain ⟨behind, inner, rfl⟩ := cuts_hole_iff.mp cuts
    rw [Debugger.places, inductionHypothesis inner]
    rfl
  | case2 character rest apart inductionHypothesis =>
    obtain ⟨behind, inner, rfl⟩ := (cuts_cons_iff (not_hole_in_front apart)).mp cuts
    rw [Debugger.places, inductionHypothesis inner]
    · rfl
    · exact apart
  | case3 =>
    rw [cuts_nil_iff.mp cuts]
    rfl

/-- Filling the places of a text puts the arguments into its holes. -/
theorem Cuts.fill_eq {text : List Char} (cuts : template.Cuts text) (arguments : List String) :
    Debugger.fill text arguments =
      if template.holes ≤ arguments.length then some (template.filled arguments) else none := by
  induction text, arguments using Debugger.fill.induct generalizing template with
  | case1 rest =>
    obtain ⟨behind, -, rfl⟩ := cuts_hole_iff.mp cuts
    rfl
  | case2 rest argument later inductionHypothesis =>
    obtain ⟨behind, inner, rfl⟩ := cuts_hole_iff.mp cuts
    rw [Debugger.fill, inductionHypothesis inner]
    by_cases enough : behind.later.length ≤ later.length
    · simp [holes, enough, filled]
    · simp [holes, enough]
  | case3 character rest arguments apart apart' inductionHypothesis =>
    have single : ∀ behind, character = '{' → rest = '}' :: behind → False := by
      intro behind same same'
      cases arguments with
      | nil => exact apart behind rfl same same'
      | cons argument later => exact apart' behind argument later rfl same same'
    obtain ⟨behind, inner, rfl⟩ := (cuts_cons_iff (not_hole_in_front single)).mp cuts
    rw [Debugger.fill, inductionHypothesis inner]
    · by_cases enough : behind.later.length ≤ arguments.length
      · simp [holes, enough, filled]
      · simp [holes, enough]
    · exact apart
    · exact apart'
  | case4 =>
    rw [cuts_nil_iff.mp cuts]
    simp [Debugger.fill, holes, filled]

end Template

namespace Debugger

/-- A debugger's spelling of a command has as many places as its name. -/
theorem places_translate (debugger : Debugger) (command : String) :
    places (debugger.translate command).toList = places command.toList := by
  have inspected : ∀ phrase ∈ debugger.phrases,
      places phrase.2.toList = places phrase.1.toList := by
    cases debugger <;> decide
  unfold translate
  cases known : debugger.phrases.lookup command with
  | none => rfl
  | some phrase =>
    obtain ⟨before, after, shape, -⟩ := List.lookup_eq_some_iff.mp known
    have member : (command, phrase) ∈ debugger.phrases := by
      rw [shape]
      exact List.mem_append_right before List.mem_cons_self
    exact inspected _ member

/-- Commands are put together in one pass. The name of a command, known or not, and the
debugger's spelling of it are each cut at their holes in exactly one way, and into as many
pieces. With an argument for each hole the command is the pieces of the spelling with the
arguments between them, in order and as they are, whatever stands in an argument or beside
it, and further arguments are left out. With fewer it is refused, which tells the name, the
number of holes and the number of arguments. -/
theorem format_fills (debugger : Debugger) (command : String) (arguments : List String) :
    ∃ name spelling : Template,
      (∀ other : Template, other.Cuts command.toList ↔ other = name) ∧
      (∀ other : Template, other.Cuts (debugger.translate command).toList ↔ other = spelling) ∧
      spelling.holes = name.holes ∧
      debugger.format command arguments =
        if name.holes ≤ arguments.length then .ok (String.ofList (spelling.filled arguments))
        else .error ⟨command, name.holes, arguments.length⟩ := by
  obtain ⟨name, ofName⟩ := Template.exists_cuts_iff command.toList
  obtain ⟨spelling, ofSpelling⟩ :=
    Template.exists_cuts_iff (debugger.translate command).toList
  have named : name.Cuts command.toList := (ofName name).mpr rfl
  have spelled : spelling.Cuts (debugger.translate command).toList := (ofSpelling spelling).mpr rfl
  have same : spelling.holes = name.holes := by
    rw [← spelled.places_eq, ← named.places_eq]
    exact debugger.places_translate command
  refine ⟨name, spelling, ofName, ofSpelling, same, ?_⟩
  rw [format, spelled.fill_eq, spelled.places_eq, same]
  by_cases enough : name.holes ≤ arguments.length
  · simp only [enough, if_true]
  · simp only [enough, if_false]

example : Debugger.pdb.format "eval \x7b\x7d" ["\x7b\x7d", "x"] = .ok "print(\x7b\x7d)" := by rfl

end Debugger

end DebugConsole
