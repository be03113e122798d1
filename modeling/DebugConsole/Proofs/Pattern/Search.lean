import DebugConsole.Listener.Rule

/-!
# Where a search ends

What holds of the search for any pattern. `Node.outcomes_reaches` says that every
outcome lies ahead in the same text, with its groups in between, and
`Node.findFrom_eq_some` that the outcome taken is the preferred one at the first
place that has any. Both together give `Pattern.match?_bounds`: a match and its
groups lie inside the text, so a rule never takes more than there is.
-/

namespace DebugConsole.Pattern

/-! ## Outcomes lie ahead -/

/-- One place lies at or behind another in the same text, and the groups found on
the way lie in between. -/
structure Reaches (source target : Progress) : Prop where
  text : ∃ read, source.cursor.rest = read ++ target.cursor.rest ∧
    target.cursor.offset = source.cursor.offset + read.length
  groups : ∃ found, target.groups = found ++ source.groups ∧ ∀ entry ∈ found,
    source.cursor.offset ≤ entry.2.start ∧ entry.2.start ≤ entry.2.stop ∧
      entry.2.stop ≤ target.cursor.offset

namespace Reaches

theorem refl (progress : Progress) : Reaches progress progress where
  text := ⟨[], by simp⟩
  groups := ⟨[], by simp⟩

theorem offset_le {source target : Progress} (reaches : Reaches source target) :
    source.cursor.offset ≤ target.cursor.offset := by
  obtain ⟨read, -, offset⟩ := reaches.text
  omega

theorem trans {source middle target : Progress} (first : Reaches source middle)
    (second : Reaches middle target) : Reaches source target where
  text := by
    obtain ⟨read, rest, offset⟩ := first.text
    obtain ⟨more, rest', offset'⟩ := second.text
    refine ⟨read ++ more, by rw [rest, rest', List.append_assoc], ?_⟩
    rw [offset', offset, List.length_append]
    omega
  groups := by
    have ahead := first.offset_le
    have further := second.offset_le
    obtain ⟨found, groups, between⟩ := first.groups
    obtain ⟨found', groups', between'⟩ := second.groups
    refine ⟨found' ++ found, by rw [groups', groups, List.append_assoc], fun entry member => ?_⟩
    rcases List.mem_append.mp member with new | old
    · have bounds := between' entry new
      omega
    · have bounds := between entry old
      omega

/-- Naming the way as a group. -/
theorem group {source target : Progress} (reaches : Reaches source target) (index : Nat) :
    Reaches source ⟨target.cursor,
      (index, ⟨source.cursor.offset, target.cursor.offset⟩) :: target.groups⟩ where
  text := reaches.text
  groups := by
    have ahead := reaches.offset_le
    obtain ⟨found, groups, between⟩ := reaches.groups
    refine ⟨(index, ⟨source.cursor.offset, target.cursor.offset⟩) :: found, by simp [groups],
      fun entry member => ?_⟩
    rcases List.mem_cons.mp member with rfl | old
    · simpa using ahead
    · exact between entry old

end Reaches

theorem mem_runEnds {members : CharSet} {groups : List (Nat × Span)} {found : List Progress}
    {offset : Nat} {text : List Char} {reached : Progress} :
    reached ∈ runEnds members groups found offset text ↔
      reached ∈ found ∨ ∃ read last rest, text = read ++ last :: rest ∧
        (∀ character ∈ read ++ [last], members.contains character = true) ∧
        reached = ⟨⟨some last, offset + read.length + 1, rest⟩, groups⟩ := by
  induction text generalizing found offset with
  | nil => simp [runEnds]
  | cons character text inductionHypothesis =>
    unfold runEnds
    split
    · next admitted =>
      rw [inductionHypothesis, List.mem_cons]
      constructor
      · rintro ((rfl | old) | ⟨read, last, rest, rfl, all, rfl⟩)
        · exact .inr ⟨[], character, text, rfl, by simpa using admitted, rfl⟩
        · exact .inl old
        · refine .inr ⟨character :: read, last, rest, rfl, by simpa [admitted] using all, ?_⟩
          simp only [List.length_cons, Nat.add_assoc, Nat.add_comm 1]
      · rintro (old | ⟨read, last, rest, shape, all, rfl⟩)
        · exact .inl (.inr old)
        · cases read with
          | nil =>
            obtain ⟨rfl, rfl⟩ : character = last ∧ text = rest := by simpa using shape
            exact .inl (.inl rfl)
          | cons first read =>
            obtain ⟨rfl, rfl⟩ : character = first ∧ text = read ++ last :: rest := by
              simpa using shape
            refine .inr ⟨read, last, rest, rfl, fun other member => all other ?_, ?_⟩
            · exact List.mem_cons_of_mem _ member
            · simp only [List.length_cons, Nat.add_assoc, Nat.add_comm 1]
    · next refused =>
      constructor
      · exact .inl
      · rintro (old | ⟨read, last, rest, shape, all, rfl⟩)
        · exact old
        · have first : character ∈ read ++ [last] := by
            cases read with
            | nil => simp_all
            | cons first read => simp_all
          exact absurd (all character first) refused

/-- A repetition only ever repeats its step. -/
theorem mem_iterate {step : Progress → List Progress}
    (ahead : ∀ progress, ∀ reached ∈ step progress, Reaches progress reached) (greedy : Bool)
    (fuel : Nat) (entered : List Nat) (progress : Progress) :
    ∀ reached ∈ (iterate greedy step fuel entered progress).2, Reaches progress reached := by
  induction fuel generalizing entered progress with
  | zero => simp [iterate]
  | succ fuel inductionHypothesis =>
    unfold iterate
    refine List.foldlRecOn
      (motive := fun result : List Nat × List Progress => ∀ reached ∈ result.2,
        Reaches progress reached) (step progress) _ (by simp) ?_
    rintro ⟨entered, found⟩ old next member
    have one := ahead progress next member
    dsimp only
    split
    · intro reached inside
      rcases List.mem_append.mp inside with before | last
      · exact old reached before
      · obtain rfl := List.mem_singleton.mp last
        exact one
    · intro reached inside
      rcases List.mem_append.mp inside with before | after
      · exact old reached before
      · have further := inductionHypothesis (next.cursor.offset :: entered) next
        cases greedy <;>
          simp only [Bool.false_eq_true, if_false, if_true, List.mem_cons, List.mem_append,
            List.not_mem_nil, or_false] at after
        · rcases after with rfl | after
          · exact one
          · exact one.trans (further reached after)
        · rcases after with after | rfl
          · exact one.trans (further reached after)
          · exact one

/-- Every outcome lies ahead, with its groups in between. -/
theorem Node.outcomes_reaches (node : Node) (progress : Progress) :
    ∀ reached ∈ node.outcomes progress, Reaches progress reached := by
  induction node generalizing progress with
  | empty => simpa [outcomes] using Reaches.refl progress
  | set members =>
    intro reached member
    unfold outcomes at member
    split at member
    · simp at member
    · next character rest shape =>
      split at member
      · obtain rfl := List.mem_singleton.mp member
        exact ⟨⟨[character], by simp [shape]⟩, ⟨[], by simp⟩⟩
      · simp at member
  | anchor condition =>
    intro reached member
    unfold outcomes at member
    split at member
    · obtain rfl := List.mem_singleton.mp member
      exact Reaches.refl _
    · simp at member
  | group index body inductionHypothesis =>
    intro reached member
    obtain ⟨inner, inside, rfl⟩ := List.mem_map.mp member
    exact (inductionHypothesis progress inner inside).group index
  | seq left right leftHypothesis rightHypothesis =>
    intro reached member
    obtain ⟨middle, first, second⟩ := List.mem_flatMap.mp member
    exact (leftHypothesis progress middle first).trans (rightHypothesis middle reached second)
  | alt left right leftHypothesis rightHypothesis =>
    intro reached member
    rcases List.mem_append.mp member with first | second
    · exact leftHypothesis progress reached first
    · exact rightHypothesis progress reached second
  | optional greedy body inductionHypothesis =>
    intro reached member
    have either : reached = progress ∨ reached ∈ body.outcomes progress := by
      unfold outcomes at member
      split at member
      · simpa [or_comm] using member
      · simpa using member
    rcases either with rfl | inside
    · exact Reaches.refl _
    · exact inductionHypothesis progress reached inside
  | plus greedy body inductionHypothesis =>
    exact mem_iterate inductionHypothesis greedy _ _ progress
  | run greedy members =>
    intro reached member
    have inside : reached ∈ runEnds members progress.groups [] progress.cursor.offset
        progress.cursor.rest := by
      unfold outcomes at member
      split at member
      · exact member
      · exact List.mem_reverse.mp member
    rw [mem_runEnds] at inside
    simp only [List.not_mem_nil, false_or] at inside
    obtain ⟨read, last, rest, shape, -, rfl⟩ := inside
    refine ⟨⟨read ++ [last], by simp [shape], ?_⟩, ⟨[], by simp⟩⟩
    simp only [List.length_append, List.length_singleton, Nat.add_assoc]

/-! ## The first place -/

/-- The place behind a stretch of text, seen from the place before it. -/
def Cursor.past (cursor : Cursor) (read rest : List Char) : Cursor :=
  ⟨read.getLast?.or cursor.before, cursor.offset + read.length, rest⟩

@[simp] theorem Cursor.past_nil (cursor : Cursor) (rest : List Char) :
    cursor.past [] rest = ⟨cursor.before, cursor.offset, rest⟩ := by
  simp [past]

theorem Cursor.past_cons (cursor : Cursor) (character : Char) (read rest : List Char) :
    cursor.past (character :: read) rest =
      (⟨some character, cursor.offset + 1, []⟩ : Cursor).past read rest := by
  simp only [past, List.getLast?_cons, List.length_cons, Nat.add_assoc, Nat.add_comm 1]
  cases read.getLast? <;> rfl

/-- The ways to find a node from a place of a text. -/
def Node.outcomesAt (node : Node) (cursor : Cursor) : List Progress := node.outcomes ⟨cursor, []⟩

/-- The search fails exactly where no place has an outcome. -/
theorem Node.findFrom_eq_none_iff {node : Node} {before : Option Char} {offset : Nat}
    {text : List Char} :
    node.findFrom before offset text = none ↔ ∀ skipped rest, text = skipped ++ rest →
      node.outcomesAt ((⟨before, offset, []⟩ : Cursor).past skipped rest) = [] := by
  induction text generalizing before offset with
  | nil =>
    simp only [findFrom, Option.map_eq_none_iff, List.head?_eq_none_iff]
    constructor
    · intro stuck skipped rest shape
      obtain ⟨rfl, rfl⟩ := List.append_eq_nil_iff.mp shape.symm
      simpa [outcomesAt] using stuck
    · intro all
      simpa [outcomesAt] using all [] [] rfl
  | cons character text inductionHypothesis =>
    unfold findFrom
    split
    · next reached later found =>
      constructor
      · intro impossible
        cases impossible
      · intro all
        have here := all [] (character :: text) rfl
        rw [Cursor.past_nil, outcomesAt, found] at here
        cases here
    · next stuck =>
      rw [inductionHypothesis]
      constructor
      · intro all skipped rest shape
        cases skipped with
        | nil =>
          obtain rfl : character :: text = rest := shape
          simpa [outcomesAt] using stuck
        | cons first skipped =>
          obtain ⟨rfl, rfl⟩ : character = first ∧ text = skipped ++ rest := by simpa using shape
          rw [Cursor.past_cons]
          exact all skipped rest rfl
      · intro all skipped rest shape
        have further := all (character :: skipped) rest (by rw [shape, List.cons_append])
        rwa [Cursor.past_cons] at further

/-- What is found is the preferred outcome at the first place that has any. -/
theorem Node.findFrom_eq_some {node : Node} {before : Option Char} {offset : Nat}
    {text : List Char} {found : Match} (success : node.findFrom before offset text = some found) :
    ∃ skipped rest reached later, text = skipped ++ rest ∧
      node.outcomesAt ((⟨before, offset, []⟩ : Cursor).past skipped rest) = reached :: later ∧
      found = ⟨⟨offset + skipped.length, reached.cursor.offset⟩, reached.groups⟩ ∧
      ∀ skipped' rest', text = skipped' ++ rest' → skipped'.length < skipped.length →
        node.outcomesAt ((⟨before, offset, []⟩ : Cursor).past skipped' rest') = [] := by
  induction text generalizing before offset with
  | nil =>
    simp only [findFrom, Option.map_eq_some_iff, List.head?_eq_some_iff] at success
    obtain ⟨reached, ⟨later, outcomes⟩, rfl⟩ := success
    exact ⟨[], [], reached, later, rfl, by simpa [outcomesAt] using outcomes, rfl, by simp⟩
  | cons character text inductionHypothesis =>
    unfold findFrom at success
    split at success
    · next reached later outcomes =>
      cases success
      exact ⟨[], character :: text, reached, later, rfl, by simpa [outcomesAt] using outcomes, rfl,
        by simp⟩
    · next stuck =>
      obtain ⟨skipped, rest, reached, later, shape, outcomes, found, first⟩ :=
        inductionHypothesis success
      refine ⟨character :: skipped, rest, reached, later, by rw [shape, List.cons_append], ?_, ?_,
        ?_⟩
      · rwa [Cursor.past_cons]
      · rw [found, List.length_cons, Nat.add_assoc, Nat.add_comm 1]
      · intro skipped' rest' shape' shorter
        cases skipped' with
        | nil =>
          obtain rfl : character :: text = rest' := shape'
          simpa [outcomesAt] using stuck
        | cons other skipped' =>
          obtain ⟨rfl, rfl⟩ : character = other ∧ text = skipped' ++ rest' := by simpa using shape'
          rw [Cursor.past_cons]
          exact first skipped' rest' rfl (by simpa using shorter)

/-- A match and every group of it lie inside the text. -/
theorem match?_bounds {pattern : Pattern} {text : List Char} {found : Match}
    (success : pattern.match? text = some found) :
    (found.span.start ≤ found.span.stop ∧ found.span.stop ≤ text.length) ∧
      ∀ entry ∈ found.groups, entry.2.start ≤ entry.2.stop ∧ entry.2.stop ≤ text.length := by
  obtain ⟨skipped, rest, reached, later, shape, outcomes, rfl, -⟩ := Node.findFrom_eq_some success
  have reaches := pattern.node.outcomes_reaches _ reached
    (by rw [← Node.outcomesAt, outcomes]; exact List.mem_cons_self)
  obtain ⟨read, ahead, offset⟩ := reaches.text
  obtain ⟨groups, found, between⟩ := reaches.groups
  have length := congrArg List.length ahead
  simp only [Cursor.past, List.length_append, Nat.zero_add] at length offset between
  rw [List.append_nil] at found
  rw [shape, List.length_append]
  refine ⟨by simp only [Nat.zero_add]; omega, fun entry member => ?_⟩
  have bounds := between entry (found ▸ member)
  omega

end DebugConsole.Pattern

namespace DebugConsole

open Pattern

/-- A rule takes no more than the text it fires on. -/
theorem Rule.consumed_le {rule : Rule} {text : List Char} {finding : Finding}
    (found : rule.find? text = some finding) : finding.consumed ≤ text.length := by
  obtain ⟨inside, success, rfl⟩ := Option.map_eq_some_iff.mp found
  obtain ⟨⟨forward, whole⟩, groups⟩ := match?_bounds success
  unfold Finding.consumed
  split
  · next tail named =>
    obtain ⟨index, -, named⟩ := Option.bind_eq_some_iff.mp named
    unfold Match.group? at named
    split at named
    · cases named
      exact Nat.le_trans forward whole
    · obtain ⟨before, after, shape, -⟩ := List.lookup_eq_some_iff.mp named
      dsimp only at shape
      have bounds := groups (index, tail) (by simp [shape])
      exact Nat.le_trans bounds.1 bounds.2
  · exact whole

end DebugConsole
