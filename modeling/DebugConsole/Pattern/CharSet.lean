import DebugConsole.Text.Blank
import DebugConsole.Text.Digit
import DebugConsole.Text.LetterCase
import DebugConsole.Text.Word

/-!
# Sets of characters

What one place of a pattern admits. Sets are expressions, and `CharSet.contains`
gives each expression its members; the lemmas say how every form of expression
acts on membership.
-/

namespace DebugConsole

/-- A set of characters. -/
inductive CharSet where
  | none
  | range (low high : Char)
  | digit
  | blank
  | word
  | anyCase (members : CharSet)
  | complement (members : CharSet)
  | union (left right : CharSet)
  | inter (left right : CharSet)
  deriving DecidableEq, Repr, Inhabited

namespace CharSet

/-- Membership of a character in a set. -/
def contains : CharSet → Char → Bool
  | .none, _ => false
  | .range low high, character => low ≤ character && character ≤ high
  | .digit, character => Text.isDigit character
  | .blank, character => Text.isBlank character
  | .word, character => Text.isWord character
  | .anyCase members, character => (Text.caseVariants character).any members.contains
  | .complement members, character => !members.contains character
  | .union left right, character => left.contains character || right.contains character
  | .inter left right, character => left.contains character && right.contains character

/-- The set of one character. -/
def single (character : Char) : CharSet := .range character character

/-- The union of two sets, without a union sign where the left one is empty. -/
def join (left right : CharSet) : CharSet := if left = .none then right else .union left right

/-- The set of the listed characters. -/
def ofList (members : List Char) : CharSet :=
  members.foldl (fun set member => set.join (single member)) .none

/-- Every character. -/
def all : CharSet := .complement .none

/-- The members of one set that are not in another. -/
def diff (left right : CharSet) : CharSet := .inter left (.complement right)

/-- The characters in exactly one of two sets. -/
def symmDiff (left right : CharSet) : CharSet := .union (diff left right) (diff right left)

@[simp] theorem contains_none (character : Char) : CharSet.none.contains character = false := rfl

@[simp] theorem contains_single (member character : Char) :
    (single member).contains character = decide (character = member) := by
  simp only [single, contains]
  by_cases same : character = member
  · subst same
    simp
  · have apart : ¬ (member ≤ character ∧ character ≤ member) := fun both =>
      same (Char.le_antisymm both.2 both.1)
    simpa [same] using apart

@[simp] theorem contains_complement (members : CharSet) (character : Char) :
    (complement members).contains character = !members.contains character := rfl

@[simp] theorem contains_union (left right : CharSet) (character : Char) :
    (union left right).contains character =
      (left.contains character || right.contains character) := rfl

@[simp] theorem contains_inter (left right : CharSet) (character : Char) :
    (inter left right).contains character =
      (left.contains character && right.contains character) := rfl

@[simp] theorem contains_all (character : Char) : all.contains character = true := rfl

@[simp] theorem contains_diff (left right : CharSet) (character : Char) :
    (diff left right).contains character =
      (left.contains character && !right.contains character) := rfl

@[simp] theorem contains_join (left right : CharSet) (character : Char) :
    (join left right).contains character =
      (left.contains character || right.contains character) := by
  unfold join
  split
  · next empty => simp [empty]
  · rfl

private theorem contains_foldl_join (members : List Char) (start : CharSet) (character : Char) :
    (members.foldl (fun set member => set.join (single member)) start).contains character =
      (start.contains character || decide (character ∈ members)) := by
  induction members generalizing start with
  | nil => simp
  | cons member later inductionHypothesis =>
    simp only [List.foldl_cons, inductionHypothesis, contains_join, contains_single,
      List.mem_cons]
    by_cases same : character = member <;> simp [same]

@[simp] theorem contains_ofList (members : List Char) (character : Char) :
    (ofList members).contains character = decide (character ∈ members) := by
  simp [ofList, contains_foldl_join]

end CharSet

end DebugConsole
