/-!
# Entries in order of their names

Lists of named values in ascending order of the names, each name once. Names are
compared character by character. `Entries.insert` keeps the order and replaces what
stood under the same name.
-/

namespace DebugConsole.Entries

variable {Value : Type}

/-- Ascending names, each once. -/
def Ordered (entries : List (String × Value)) : Prop :=
  entries.Pairwise fun left right => left.1 < right.1

/-- Puts a value under a name. -/
def insert (name : String) (value : Value) : List (String × Value) → List (String × Value)
  | [] => [(name, value)]
  | entry :: later =>
    if name < entry.1 then (name, value) :: entry :: later
    else if name = entry.1 then (name, value) :: later
    else entry :: insert name value later

/-- The entries for pairs in any order; of pairs with one name the last counts. -/
def ofPairs (pairs : List (String × Value)) : List (String × Value) :=
  pairs.foldl (fun entries pair => insert pair.1 pair.2 entries) []

theorem ordered_nil : Ordered ([] : List (String × Value)) := List.Pairwise.nil

/-- The names after an insertion are the given one and those from before. -/
theorem name_of_mem_insert {name : String} {value : Value} {entries : List (String × Value)}
    {entry : String × Value} (member : entry ∈ insert name value entries) :
    entry.1 = name ∨ entry ∈ entries := by
  induction entries with
  | nil => simp_all [insert]
  | cons first later inductionHypothesis =>
    unfold insert at member
    split at member
    · rcases List.mem_cons.mp member with same | inside
      · exact .inl (by simp [same])
      · exact .inr inside
    · split at member
      · rcases List.mem_cons.mp member with same | inside
        · exact .inl (by simp [same])
        · exact .inr (List.mem_cons_of_mem _ inside)
      · rcases List.mem_cons.mp member with same | inside
        · exact .inr (by simp [same])
        · rcases inductionHypothesis inside with same | older
          · exact .inl same
          · exact .inr (List.mem_cons_of_mem _ older)

/-- Insertion keeps the names in order. -/
theorem Ordered.insert {entries : List (String × Value)} (ordered : Ordered entries)
    (name : String) (value : Value) : Ordered (Entries.insert name value entries) := by
  induction entries with
  | nil => simp [Entries.insert, Ordered]
  | cons first later inductionHypothesis =>
    have parts := List.pairwise_cons.mp ordered
    unfold Entries.insert
    split
    · next less =>
      refine List.pairwise_cons.mpr ⟨fun entry member => ?_, ordered⟩
      rcases List.mem_cons.mp member with same | inside
      · simpa [same] using less
      · exact String.lt_trans less (parts.1 entry inside)
    · split
      · next same =>
        exact List.pairwise_cons.mpr ⟨fun entry inside => same ▸ parts.1 entry inside, parts.2⟩
      · next notLess different =>
        refine List.pairwise_cons.mpr ⟨fun entry member => ?_, inductionHypothesis parts.2⟩
        rcases name_of_mem_insert member with same | older
        · rw [same]
          exact Std.lt_of_le_of_ne (String.not_lt.mp notLess) (Ne.symm different)
        · exact parts.1 entry older

/-- Entries made from pairs are in order. -/
theorem ordered_ofPairs (pairs : List (String × Value)) : Ordered (ofPairs pairs) := by
  have keeps (entries : List (String × Value)) (ordered : Ordered entries) :
      Ordered (pairs.foldl (fun entries pair => insert pair.1 pair.2 entries) entries) := by
    induction pairs generalizing entries with
    | nil => exact ordered
    | cons pair later inductionHypothesis =>
      exact inductionHypothesis _ (ordered.insert pair.1 pair.2)
  exact keeps [] ordered_nil

theorem Ordered.map {Result : Type} {entries : List (String × Value)} (ordered : Ordered entries)
    (change : Value → Result) :
    Ordered (entries.map fun entry => (entry.1, change entry.2)) :=
  List.pairwise_map.mpr ordered

/-- A value under a name greater than all others is put behind them. -/
theorem insert_last {name : String} {entries : List (String × Value)}
    (less : ∀ entry ∈ entries, entry.1 < name) (value : Value) :
    insert name value entries = entries ++ [(name, value)] := by
  induction entries with
  | nil => rfl
  | cons first later inductionHypothesis =>
    obtain ⟨before, others⟩ := List.forall_mem_cons.mp less
    rw [insert, if_neg (String.lt_asymm before), if_neg (String.ne_of_lt before).symm,
      inductionHypothesis others, List.cons_append]

/-- Putting entries that are in order behind lesser ones appends them. -/
theorem foldl_insert {earlier entries : List (String × Value)}
    (ordered : Ordered (earlier ++ entries)) :
    entries.foldl (fun entries entry => insert entry.1 entry.2 entries) earlier =
      earlier ++ entries := by
  induction entries generalizing earlier with
  | nil => exact (List.append_nil earlier).symm
  | cons entry later inductionHypothesis =>
    have less : ∀ before ∈ earlier, before.1 < entry.1 := fun before member =>
      (List.pairwise_append.mp ordered).2.2 before member entry List.mem_cons_self
    rw [List.foldl_cons, insert_last less, inductionHypothesis (by simpa using ordered),
      List.append_assoc, List.singleton_append]

theorem Ordered.ofPairs_eq {entries : List (String × Value)} (ordered : Ordered entries) :
    ofPairs entries = entries :=
  foldl_insert (show Ordered ([] ++ entries) from ordered)

/-- An entry that is found stands between those of lesser and those of greater names. -/
theorem Ordered.exists_split {entries : List (String × Value)} (ordered : Ordered entries)
    {name : String} {value : Value} (found : entries.lookup name = some value) :
    ∃ earlier later, entries = earlier ++ (name, value) :: later ∧
      (∀ entry ∈ earlier, entry.1 < name) ∧ ∀ entry ∈ later, name < entry.1 := by
  obtain ⟨earlier, later, rfl, -⟩ := List.lookup_eq_some_iff.mp found
  obtain ⟨-, behind, before⟩ := List.pairwise_append.mp ordered
  exact ⟨earlier, later, rfl, fun entry member => before entry member _ List.mem_cons_self,
    (List.pairwise_cons.mp behind).1⟩

/-- Looking a name up asks one entry after the other. -/
theorem lookup_cons_eq (name : String) (entry : String × Value)
    (later : List (String × Value)) :
    (entry :: later).lookup name =
      if name = entry.1 then some entry.2 else later.lookup name := by
  obtain ⟨held, value⟩ := entry
  by_cases same : name = held
  · simp [same]
  · have apart : (name == held) = false := beq_eq_false_iff_ne.mpr same
    simp [List.lookup_cons, same, apart]

/-- What stands under a name after an insertion. -/
theorem lookup_insert (entries : List (String × Value)) (name other : String) (value : Value) :
    (insert name value entries).lookup other =
      if other = name then some value else entries.lookup other := by
  induction entries with
  | nil => simp [insert, lookup_cons_eq]
  | cons first later inductionHypothesis =>
    unfold insert
    split
    · rw [lookup_cons_eq]
    · split
      · next alike =>
        simp only [lookup_cons_eq, alike]
        split <;> rfl
      · next different =>
        simp only [lookup_cons_eq, inductionHypothesis]
        by_cases same : other = first.1
        · have apart : ¬ other = name := fun equal => different (equal ▸ same)
          simp only [same, if_true]
          rw [if_neg fun equal => different equal.symm]
        · simp [same]

end DebugConsole.Entries
