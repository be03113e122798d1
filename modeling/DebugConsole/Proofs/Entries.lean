import DebugConsole.Entries
import Mathlib.Data.List.Induction
import Mathlib.Data.List.Sort

/-!
# Entries by their names

Entries that are made from pairs hold what the last pair of each name says
(`Entries.lookup_ofPairs_iff`), and entries in order are told apart by what stands under the
names (`Entries.Ordered.eq_of_lookup`).
-/

namespace DebugConsole.Entries

variable {Value : Type}

/-- The last pair of this name has this value. -/
def Lasting (pairs : List (String × Value)) (name : String) (value : Value) : Prop :=
  ∃ earlier later, pairs = earlier ++ (name, value) :: later ∧ ∀ pair ∈ later, pair.1 ≠ name

theorem lasting_nil (name : String) (value : Value) : ¬ Lasting [] name value := by
  rintro ⟨earlier, later, parts, -⟩
  simp at parts

/-- A further pair counts for its name, and leaves the other names alone. -/
theorem lasting_concat_iff {pairs : List (String × Value)} {pair : String × Value} {name : String}
    {value : Value} :
    Lasting (pairs ++ [pair]) name value ↔
      if name = pair.1 then value = pair.2 else Lasting pairs name value := by
  constructor
  · rintro ⟨earlier, later, parts, others⟩
    rcases List.eq_nil_or_concat later with rfl | ⟨later, last, rfl⟩
    · obtain ⟨-, same⟩ := List.append_inj' parts rfl
      obtain rfl := List.singleton_inj.mp same
      rw [if_pos rfl]
    · have regrouped : pairs ++ [pair] = (earlier ++ (name, value) :: later) ++ [last] := by
        simp [parts]
      obtain ⟨rfl, same⟩ := List.append_inj' regrouped rfl
      obtain rfl := List.singleton_inj.mp same
      rw [List.concat_eq_append] at others
      have apart : name ≠ pair.1 := fun same => others pair (by simp) same.symm
      rw [if_neg apart]
      exact ⟨earlier, later, rfl, fun member inside => others member (by simp [inside])⟩
  · intro counts
    split at counts
    · next same =>
      subst same counts
      exact ⟨pairs, [], rfl, by simp⟩
    · next apart =>
      obtain ⟨earlier, later, rfl, others⟩ := counts
      refine ⟨earlier, later ++ [pair], by simp, fun member inside => ?_⟩
      rcases List.mem_append.mp inside with before | last
      · exact others member before
      · rw [List.mem_singleton.mp last]
        exact Ne.symm apart

theorem ofPairs_concat (pairs : List (String × Value)) (pair : String × Value) :
    ofPairs (pairs ++ [pair]) = insert pair.1 pair.2 (ofPairs pairs) := by
  rw [ofPairs, List.foldl_append]
  rfl

/-- Of the pairs of one name the last counts. -/
theorem lookup_ofPairs_iff {pairs : List (String × Value)} {name : String} {value : Value} :
    (ofPairs pairs).lookup name = some value ↔ Lasting pairs name value := by
  induction pairs using List.reverseRecOn with
  | nil => exact iff_of_false nofun (lasting_nil name value)
  | append_singleton pairs pair inductionHypothesis =>
    rw [ofPairs_concat, lookup_insert, lasting_concat_iff]
    split
    · rw [Option.some.injEq, eq_comm]
    · exact inductionHypothesis

/-- Values that are changed in the pairs are changed in the entries. -/
theorem lookup_ofPairs_map {Result : Type} (change : Value → Result)
    (pairs : List (String × Value)) (name : String) :
    (ofPairs (pairs.map fun pair => (pair.1, change pair.2))).lookup name =
      ((ofPairs pairs).lookup name).map change := by
  induction pairs using List.reverseRecOn with
  | nil => rfl
  | append_singleton pairs pair inductionHypothesis =>
    rw [List.map_append, List.map_singleton, ofPairs_concat, ofPairs_concat, lookup_insert,
      lookup_insert, inductionHypothesis]
    split <;> rfl

/-- An entry stands among others exactly if it is found under its name. -/
theorem Ordered.mem_iff_lookup {entries : List (String × Value)} (ordered : Ordered entries)
    {name : String} {value : Value} :
    (name, value) ∈ entries ↔ entries.lookup name = some value := by
  induction entries with
  | nil => simp
  | cons first later inductionHypothesis =>
    obtain ⟨behind, orderedLater⟩ := List.pairwise_cons.mp ordered
    rw [List.mem_cons, lookup_cons_eq, inductionHypothesis orderedLater]
    by_cases same : name = first.1
    · subst same
      have absent : later.lookup first.1 ≠ some value := fun found =>
        String.lt_irrefl _ (behind (first.1, value) ((inductionHypothesis orderedLater).mpr found))
      simp [absent, Prod.ext_iff, eq_comm]
    · have apart : (name, value) ≠ first := fun equal => same (congrArg Prod.fst equal)
      simp [same, apart]

theorem Ordered.eq_of_lookup {left right : List (String × Value)} (orderedLeft : Ordered left)
    (orderedRight : Ordered right) (same : ∀ name, left.lookup name = right.lookup name) :
    left = right := by
  have nodup : ∀ {entries : List (String × Value)}, Ordered entries → entries.Nodup := by
    intro entries ordered
    refine List.Pairwise.imp (fun less equal => ?_) ordered
    rw [equal] at less
    exact String.lt_irrefl _ less
  have perm : left.Perm right := by
    rw [List.perm_ext_iff_of_nodup (nodup orderedLeft) (nodup orderedRight)]
    rintro ⟨name, value⟩
    rw [orderedLeft.mem_iff_lookup, orderedRight.mem_iff_lookup, same]
  refine perm.eq_of_pairwise (fun _ _ _ _ less more => ?_) orderedLeft orderedRight
  exact absurd more (String.lt_asymm less)

end DebugConsole.Entries
