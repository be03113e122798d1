import DebugConsole.Proofs.Session.Commands
import DebugConsole.Scenario.Check
import Mathlib.Data.List.Forall2

/-!
# What a scenario expects

`MetBy` says when an expectation is met, for one note, for all notes of a chunk and for a
command, and `Differs` which differences can truly be told of one that is not. A check
`Judges` by both: where it tells a difference, there is that difference, and where it tells
none, the expectation is met.
-/

namespace DebugConsole

theorem Text.occursIn_iff_infix {part text : List Char} :
    Text.occursIn part text = true ↔ part <:+: text := by
  induction text with
  | nil => simp [occursIn]
  | cons character rest inductionHypothesis =>
    simp [occursIn, inductionHypothesis, List.infix_cons_iff]

/-! ## Checks that tell a difference -/

/-- What comes of a check is right: a difference that there is, or nothing if what was to
be checked holds. -/
inductive Judges {Difference : Type} (holds : Prop) (differs : Difference → Prop) :
    Option Difference → Prop where
  | holds (right : holds) : Judges holds differs none
  | differs {difference : Difference} (right : differs difference) :
      Judges holds differs (some difference)

namespace Judges

variable {Difference : Type} {holds further : Prop} {differs : Difference → Prop}
  {found later : Option Difference}

theorem imp {differs' : Difference → Prop} (judges : Judges holds differs found)
    (weaken : holds → further) (tell : ∀ difference, differs difference → differs' difference) :
    Judges further differs' found := by
  cases judges with
  | holds right => exact .holds (weaken right)
  | differs right => exact .differs (tell _ right)

/-- A check behind another one. -/
theorem orElse (first : Judges holds differs found) (second : Judges further differs later) :
    Judges (holds ∧ further) differs (found <|> later) := by
  cases first with
  | differs right => exact .differs right
  | holds right =>
    cases second with
    | differs right' => exact .differs right'
    | holds right' => exact .holds ⟨right, right'⟩

/-- A check of something that need not be given. -/
theorem filter {Given : Type} {given : Option Given} {wrong : Given → Bool}
    {tell : Given → Difference}
    (right : ∀ value, given = some value → wrong value = true → differs (tell value)) :
    Judges (∀ value, given = some value → wrong value = false) differs
      ((given.filter wrong).map tell) := by
  cases given with
  | none => exact .holds nofun
  | some value =>
    cases wrongly : wrong value with
    | false =>
      rw [Option.filter_some_neg (by simp [wrongly])]
      exact .holds fun other same => by cases same; exact wrongly
    | true =>
      rw [Option.filter_some_pos wrongly]
      exact .differs (right value rfl wrongly)

/-- A check that puts its differences in other words. -/
theorem map {Worded : Type} (judges : Judges holds differs found) (word : Difference → Worded) :
    Judges holds (fun worded => ∃ difference, differs difference ∧ worded = word difference)
      (found.map word) := by
  cases judges with
  | holds right => exact .holds right
  | @differs difference right => exact .differs ⟨difference, right, rfl⟩

/-- A check by an expectation that need not be given. -/
theorem bind {Expectation : Type} (expected : Option Expectation) {met : Expectation → Prop}
    {differs : Expectation → Difference → Prop} {check : Expectation → Option Difference}
    (judges : ∀ expectation, Judges (met expectation) (differs expectation) (check expectation)) :
    Judges (∀ expectation ∈ expected, met expectation)
      (fun difference => ∃ expectation ∈ expected, differs expectation difference)
      (expected.bind check) := by
  cases expected with
  | none => exact .holds nofun
  | some expectation =>
    exact (judges expectation).imp (fun right other given => Option.some.inj given ▸ right)
      fun difference right => ⟨expectation, rfl, right⟩

end Judges

/-! ## Notes -/

namespace NoteExpectation

/-- A note is as expected in all that is given. A note without a file or a message counts
as having an empty one. -/
structure MetBy (expectation : NoteExpectation) (note : Note) : Prop where
  name : note.name = expectation.name
  file : ∀ file, expectation.file = some file → note.file?.elim "" (·.text) = file
  line : ∀ line, expectation.line = some line → note.line? = some line
  breakpoints : ∀ breakpoints, expectation.breakpoints = some breakpoints →
    note.breakpoints? = some breakpoints
  fragment : ∀ fragment, expectation.fragment = some fragment →
    fragment.toList <:+: (note.message?.getD "").toList

/-- How a note differs from what is expected of it. -/
inductive Differs (expectation : NoteExpectation) (note : Note) : NoteMismatch → Prop where
  | name (apart : note.name ≠ expectation.name) :
      Differs expectation note (.name expectation.name note.name)
  | file {file : String} (given : expectation.file = some file)
      (apart : note.file?.elim "" (·.text) ≠ file) :
      Differs expectation note (.file file (note.file?.elim "" (·.text)))
  | line {line : Nat} (given : expectation.line = some line) (apart : note.line? ≠ some line) :
      Differs expectation note (.line line note.line?)
  | noBreakpoints {breakpoints : Breakpoints} (given : expectation.breakpoints = some breakpoints)
      (nothing : note.breakpoints? = none) : Differs expectation note .noBreakpoints
  | breakpoints {expected found : Breakpoints} (given : expectation.breakpoints = some expected)
      (told : note.breakpoints? = some found) (apart : found ≠ expected) :
      Differs expectation note (.breakpoints expected found)
  | fragment {fragment : String} (given : expectation.fragment = some fragment)
      (lacks : ¬ fragment.toList <:+: (note.message?.getD "").toList) :
      Differs expectation note (.fragment fragment (note.message?.getD ""))

variable {expectation : NoteExpectation} {note : Note}

theorem Differs.not_metBy {mismatch : NoteMismatch} (differs : expectation.Differs note mismatch) :
    ¬ expectation.MetBy note := by
  intro met
  cases differs with
  | name apart => exact apart met.name
  | file given apart => exact apart (met.file _ given)
  | line given apart => exact apart (met.line _ given)
  | noBreakpoints given nothing => simpa [nothing] using met.breakpoints _ given
  | breakpoints given told apart =>
    exact apart (Option.some.inj (told.symm.trans (met.breakpoints _ given)))
  | fragment given lacks => exact lacks (met.fragment _ given)

theorem breakpointsMismatch?_judges :
    Judges (∀ breakpoints, expectation.breakpoints = some breakpoints →
        note.breakpoints? = some breakpoints)
      (expectation.Differs note) (expectation.breakpointsMismatch? note) := by
  unfold breakpointsMismatch?
  cases given : expectation.breakpoints with
  | none => exact .holds nofun
  | some expected =>
    rw [Option.bind_some]
    cases told : note.breakpoints? with
    | none => exact .differs (.noBreakpoints given told)
    | some found =>
      dsimp only
      split
      · next same => exact .holds fun other given' => by rw [← same, Option.some.inj given']
      · next apart => exact .differs (.breakpoints given told (Ne.symm apart))

/-- The check of a note judges it. -/
theorem mismatch?_judges (expectation : NoteExpectation) (note : Note) :
    Judges (expectation.MetBy note) (expectation.Differs note) (expectation.mismatch? note) := by
  unfold mismatch?
  split
  · next apart => exact .differs (.name (Ne.symm apart))
  · next same =>
    have file : Judges _ (expectation.Differs note) (expectation.fileMismatch? note) :=
      .filter fun file given wrong => .file given (Ne.symm (by simpa using wrong))
    have line : Judges _ (expectation.Differs note) (expectation.lineMismatch? note) :=
      .filter fun line given wrong => .line given (Ne.symm (by simpa using wrong))
    have fragment : Judges _ (expectation.Differs note) (expectation.messageMismatch? note) :=
      .filter fun fragment given wrong =>
        .fragment given (by simpa [← Text.occursIn_iff_infix] using wrong)
    refine (file.orElse (line.orElse (breakpointsMismatch?_judges.orElse fragment))).imp
      (fun ⟨file, line, breakpoints, fragment⟩ => ?_) fun _ => id
    exact
      { name := (not_not.mp same).symm
        file := fun text given => (by simpa using file text given : text = _).symm
        line := fun number given => (by simpa using line number given : some number = _).symm
        breakpoints
        fragment := fun part given => by
          simpa [Text.occursIn_iff_infix] using fragment part given }

end NoteExpectation

/-! ## Chunks -/

namespace FeedExpectation

/-- The notes of a chunk are as many as expected, and each is as expected, and so is the
state afterwards. -/
structure MetBy (expectation : FeedExpectation) (notes : List Note) (state : RunState) :
    Prop where
  notes : ∀ expected, expectation.notes = some expected →
    List.Forall₂ NoteExpectation.MetBy expected notes
  state : ∀ expected, expectation.state = some expected → state = expected

/-- How the notes of a chunk and the state afterwards differ from what is expected. -/
inductive Differs (expectation : FeedExpectation) (notes : List Note) (state : RunState) :
    StepMismatch → Prop where
  | count {expected : List NoteExpectation} (given : expectation.notes = some expected)
      (apart : expected.length ≠ notes.length) :
      Differs expectation notes state (.count expected.length (notes.map (·.name)))
  | note {expected : List NoteExpectation} {place : Nat} {part : NoteExpectation} {note : Note}
      {mismatch : NoteMismatch} (given : expectation.notes = some expected)
      (stand : (expected.zip notes)[place]? = some (part, note))
      (differs : part.Differs note mismatch) :
      Differs expectation notes state (.note (place + 1) mismatch)
  | state {expected : RunState} (given : expectation.state = some expected)
      (apart : state ≠ expected) : Differs expectation notes state (.state expected state)

variable {expectation : FeedExpectation} {notes : List Note} {state : RunState}

theorem Differs.not_metBy {mismatch : StepMismatch}
    (differs : expectation.Differs notes state mismatch) : ¬ expectation.MetBy notes state := by
  intro met
  cases differs with
  | count given apart => exact apart (met.notes _ given).length_eq
  | note given stand differs =>
    exact differs.not_metBy
      ((List.forall₂_iff_zip.mp (met.notes _ given)).2 (List.mem_of_getElem? stand))
  | state given apart => exact apart (met.state _ given)

theorem firstMismatch?_judges (position : Nat) (pairs : List (NoteExpectation × Note)) :
    Judges (∀ pair ∈ pairs, pair.1.MetBy pair.2)
      (fun mismatch => ∃ place pair difference, pairs[place]? = some pair ∧
        pair.1.Differs pair.2 difference ∧ mismatch = .note (position + place) difference)
      (firstMismatch? position pairs) := by
  induction pairs generalizing position with
  | nil => exact .holds nofun
  | cons pair later inductionHypothesis =>
    rw [firstMismatch?]
    have here := pair.1.mismatch?_judges pair.2
    cases found : pair.1.mismatch? pair.2 with
    | some difference =>
      rw [found] at here
      cases here with
      | differs right => exact .differs ⟨0, pair, difference, rfl, right, rfl⟩
    | none =>
      rw [found] at here
      cases here with
      | holds right =>
        refine (inductionHypothesis (position + 1)).imp
          (fun met => List.forall_mem_cons.mpr ⟨right, met⟩) ?_
        rintro mismatch ⟨place, pair', difference, stands, differs, rfl⟩
        exact ⟨place + 1, pair', difference, stands, differs, by rw [Nat.add_right_comm]; rfl⟩

/-- The check of a chunk judges it. -/
theorem mismatch?_judges (expectation : FeedExpectation) (notes : List Note) (state : RunState) :
    Judges (expectation.MetBy notes state) (expectation.Differs notes state)
      (expectation.mismatch? notes state) := by
  have listed : Judges (∀ expected, expectation.notes = some expected →
      List.Forall₂ NoteExpectation.MetBy expected notes) (expectation.Differs notes state)
      (expectation.notesMismatch? notes) := by
    unfold notesMismatch?
    cases given : expectation.notes with
    | none => exact .holds nofun
    | some expected =>
      rw [Option.bind_some]
      split
      · next apart => exact .differs (.count given apart)
      · next same =>
        refine (firstMismatch?_judges 1 (expected.zip notes)).imp (fun met other given' => ?_) ?_
        · obtain rfl := Option.some.inj given'
          exact List.forall₂_iff_zip.mpr ⟨not_not.mp same, fun member => met _ member⟩
        · rintro mismatch ⟨place, ⟨part, note⟩, difference, stand, differs, rfl⟩
          rw [Nat.add_comm]
          exact .note given stand differs
  have left : Judges _ (expectation.Differs notes state)
      ((expectation.state.filter (· ≠ state)).map (.state · state)) :=
    .filter fun expected given wrong => .state given (Ne.symm (by simpa using wrong))
  refine (listed.orElse left).imp (fun ⟨listed, left⟩ => ⟨listed, fun expected given => ?_⟩)
    fun _ => id
  have same : expected = state := by simpa using left expected given
  exact same.symm

end FeedExpectation

/-! ## Commands -/

namespace CommandExpectation

/-- The line that the terminal took in the course of a command is as expected, and so is
whether it interrupted the program. -/
structure MetBy (expectation : CommandExpectation) (exchanges : List Exchange) : Prop where
  typed : ∀ line, expectation.typed = some line → exchanges.filterMap Exchange.taken? = [line]
  interrupted : ∀ expected, expectation.interrupted = some expected →
    (.interrupted (.ok ()) ∈ exchanges ↔ expected = true)

/-- How a command differs from what is expected of it. -/
inductive Differs (expectation : CommandExpectation) (exchanges : List Exchange) :
    StepMismatch → Prop where
  | typed {expected line : String} (given : expectation.typed = some expected)
      (taken : exchanges.filterMap Exchange.taken? = [line]) (apart : line ≠ expected) :
      Differs expectation exchanges (.typed expected line)
  | interrupted {expected found : Bool} (given : expectation.interrupted = some expected)
      (seen : .interrupted (.ok ()) ∈ exchanges ↔ found = true) (apart : found ≠ expected) :
      Differs expectation exchanges (.interrupted expected found)

variable {expectation : CommandExpectation} {exchanges : List Exchange}

theorem Differs.not_metBy {mismatch : StepMismatch}
    (differs : expectation.Differs exchanges mismatch) : ¬ expectation.MetBy exchanges := by
  intro met
  cases differs with
  | typed given taken apart => exact apart (by simpa [taken] using met.typed _ given)
  | interrupted given seen apart =>
    exact apart (Bool.eq_iff_iff.mpr (seen.symm.trans (met.interrupted _ given)))

/-- The check of a command judges it by the one line that was typed and by whether the
program was interrupted. -/
theorem mismatch?_judges (expectation : CommandExpectation) {line : String} {interrupted : Bool}
    (taken : exchanges.filterMap Exchange.taken? = [line])
    (seen : .interrupted (.ok ()) ∈ exchanges ↔ interrupted = true) :
    Judges (expectation.MetBy exchanges) (expectation.Differs exchanges)
      (expectation.mismatch? line interrupted) := by
  have typed : Judges _ (expectation.Differs exchanges)
      ((expectation.typed.filter (· ≠ line)).map (.typed · line)) :=
    .filter fun expected given wrong => .typed given taken (Ne.symm (by simpa using wrong))
  have stopped : Judges _ (expectation.Differs exchanges)
      ((expectation.interrupted.filter (· ≠ interrupted)).map (.interrupted · interrupted)) :=
    .filter fun expected given wrong => .interrupted given seen (Ne.symm (by simpa using wrong))
  refine (typed.orElse stopped).imp (fun ⟨typed, stopped⟩ => ⟨fun expected given => ?_,
    fun expected given => ?_⟩) fun _ => id
  · have same : expected = line := by simpa using typed expected given
    rw [taken, same]
  · have same : expected = interrupted := by simpa using stopped expected given
    rw [seen, same]

end CommandExpectation

end DebugConsole
