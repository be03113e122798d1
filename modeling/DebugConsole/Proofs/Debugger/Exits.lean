import DebugConsole.Proofs.Debugger.Notices

/-!
# No exit goes unnoticed

Each match takes all text in front of it, so that a rule could take an exit notice away
together with what it has found. `Debugger.exit_reported` says that none does: as long as
no notice behind it revives the program, an exit notice in the text leads to a report of
the end in the same feed.

In a state other than the terminated one, the rules in front of that of the exit notice
are those of revivals (`Debugger.exists_exit_rule`). What a revival takes ends in front of
the exit notice, since the two cannot overlap (`Pattern.Node.Spells.ends_in_front`), and
leads to such a state again. So the notice is still there when its own rule fires.
-/

namespace DebugConsole

open Pattern

namespace Pattern.Node

/-! ## Nodes whose texts do not overlap -/

/-- Whether what a node spells cannot begin behind the start of what another one spells: it
starts with characters that the other one does not continue with. -/
def beginsOutside (node other : Node) : Bool :=
  (node.leads.head?.bind CharSet.listed).any fun starts =>
    starts.all fun character => !other.continues character

/-- Whether what two nodes spell cannot overlap: neither begins inside the other, and both
cannot begin at one place, since each needs a character that the other does not admit. -/
def disjoint (node other : Node) : Bool :=
  node.beginsOutside other && other.beginsOutside node &&
    (node.excludes other && other.excludes node)

theorem disjoint_comm {node other : Node} (apart : node.disjoint other = true) :
    other.disjoint node = true := by
  simp only [disjoint, Bool.and_eq_true] at apart ⊢
  exact ⟨apart.1.symm, apart.2.symm⟩

namespace Spells

variable {node other : Node} {word read behind rest : List Char}

/-- A text that lacks what another one needs does not begin with it. -/
theorem ne_append (excludes : node.excludes other = true) (spells : node.Spells word behind)
    (spells' : other.Spells read rest) (more : List Char) : word ≠ read ++ more := by
  intro same
  have shape : [] ++ word = [] ++ (read ++ more) := same
  exact unspelled_of_excludes excludes spells (by simp) shape spells'

/-- Of two texts that do not overlap, neither begins inside the other one. -/
theorem not_begins_inside (apart : node.disjoint other = true) (spells : node.Spells word behind)
    (spells' : other.Spells read rest) {ahead inside : List Char} (parts : read = ahead ++ inside)
    (some : inside ≠ []) : inside ++ rest ≠ word ++ behind := by
  intro same
  simp only [disjoint, Bool.and_eq_true] at apart
  obtain ⟨⟨outside, -⟩, excludes, excludes'⟩ := apart
  obtain ⟨starts, bound, refuses⟩ := (Option.any_eq_true _ _).mp outside
  obtain ⟨members, head, lists⟩ := Option.bind_eq_some_iff.mp bound
  obtain ⟨first, later, rfl, admitted⟩ := spells.head_mem head
  obtain ⟨first', inside, rfl⟩ := List.exists_cons_of_ne_nil some
  obtain rfl : first' = first := (List.cons.inj same).1
  cases ahead with
  | cons earlier ahead =>
    have refused := List.all_eq_true.mp refuses first' (CharSet.mem_of_listed lists admitted)
    rw [spells'.continues (by simp [parts])] at refused
    cases refused
  | nil =>
    -- Both begin at one place, so the shorter one begins the longer one.
    rw [List.nil_append] at parts
    subst parts
    rcases List.append_eq_append_iff.mp same with ⟨more, longer, -⟩ | ⟨more, longer, -⟩
    · exact spells.ne_append excludes spells' more longer
    · exact spells'.ne_append excludes' spells more longer

/-- Of two texts in one that do not overlap, either one ends in front of the other, or it
is found behind it. -/
theorem ends_in_front (apart : node.disjoint other = true) (spells : node.Spells word behind)
    (spells' : other.Spells read rest) {skipped front : List Char}
    (shape : skipped ++ (read ++ rest) = front ++ (word ++ behind)) :
    (∃ between, front = skipped ++ (read ++ between) ∧ rest = between ++ (word ++ behind)) ∨
      ∃ between, behind = between ++ (read ++ rest) := by
  rcases List.append_eq_append_iff.mp shape with ⟨more, rfl, later⟩ | ⟨more, rfl, later⟩
  · rcases List.append_eq_append_iff.mp later with ⟨between, rfl, parts⟩ | ⟨inside, parts, same⟩
    · exact .inl ⟨between, rfl, parts⟩
    · by_cases none : inside = []
      · subst none
        exact .inl ⟨[], by simp [parts], by simpa using same.symm⟩
      · exact absurd same.symm (spells.not_begins_inside apart spells' parts none)
  · rcases List.append_eq_append_iff.mp later with ⟨between, rfl, parts⟩ | ⟨inside, parts, same⟩
    · exact .inr ⟨between, parts⟩
    · by_cases none : inside = []
      · subst none
        exact .inr ⟨[], by simpa using same.symm⟩
      · exact absurd same.symm (spells'.not_begins_inside (disjoint_comm apart) spells parts none)

end Spells

end Pattern.Node

namespace Debugger

open Pattern.Node

variable {debugger : Debugger} {policy : Location.Policy}

/-! ## Exit notices and revivals -/

/-- The pattern of a debugger's notice that the program has ended. -/
def exit : Debugger → Pattern
  | .gdb => Gdb.exited
  | .lldb => Lldb.exited
  | .pdb => Pdb.finished
  | .bashdb => Bashdb.terminated

/-- The patterns of the notices that contradict an exit notice in front of them: that the
program goes on, that it was started, and with lldb that it stopped. -/
def revivals : Debugger → List Pattern
  | .gdb => [Gdb.continuing, Gdb.starting]
  | .lldb => [Lldb.resuming, Lldb.launched, Lldb.stopped]
  | .pdb | .bashdb => []

theorem exit_noticed (debugger : Debugger) :
    (debugger.exit, Reaction.terminate) ∈ debugger.notices := by
  cases debugger <;> simp [notices, exit]

theorem disjoint_exit {pattern : Pattern} (revives : pattern ∈ debugger.revivals) :
    debugger.exit.node.disjoint pattern.node = true := by
  have inspected : ∀ pattern ∈ debugger.revivals,
      debugger.exit.node.disjoint pattern.node = true := by
    cases debugger <;> decide
  exact inspected pattern revives

/-- A revival does not lead to the terminated state. -/
theorem next_ne_terminated {notice : Pattern × Reaction} (noticed : notice ∈ debugger.notices)
    (revives : notice.1 ∈ debugger.revivals) : notice.2.next ≠ .terminated := by
  have inspected : ∀ notice ∈ debugger.notices, notice.1 ∈ debugger.revivals →
      notice.2.next ≠ .terminated := by
    cases debugger <;> decide
  exact inspected notice noticed revives

/-- A revival is a notice of the debugger. -/
theorem exists_revival {pattern : Pattern} (revives : pattern ∈ debugger.revivals) :
    ∃ notice ∈ debugger.notices, pattern = notice.1 := by
  have inspected : ∀ pattern ∈ debugger.revivals, ∃ notice ∈ debugger.notices,
      pattern = notice.1 := by
    cases debugger <;> decide
  exact inspected pattern revives

/-- While the program is not gone, nothing is looked for before its exit but revivals. -/
theorem exists_exit_watched {state : RunState} (shown : state ∈ debugger.states)
    (alive : state ≠ .terminated) :
    ∃ earlier later, debugger.watched state = earlier ++ debugger.exit :: later ∧
      ∀ pattern ∈ earlier, pattern ∈ debugger.revivals := by
  cases debugger with
  | gdb =>
    cases state with
    | running => exact ⟨[], _, rfl, by simp⟩
    | paused => exact ⟨[Gdb.continuing, Gdb.starting], _, rfl, by simp [revivals]⟩
    | terminated => exact absurd rfl alive
  | lldb =>
    cases state with
    | running => exact ⟨[Lldb.stopped], _, rfl, by simp [revivals]⟩
    | paused => exact ⟨[Lldb.resuming, Lldb.launched], _, rfl, by simp [revivals]⟩
    | terminated => exact absurd rfl alive
  | pdb | bashdb =>
    cases state with
    | running => exact absurd shown (by decide)
    | paused => exact ⟨[], _, rfl, by simp⟩
    | terminated => exact absurd rfl alive

/-- What fires on a text with an exit notice, while the program is not gone, is looked for
no later than the exit. -/
theorem pattern_of_takes {transition : Transition}
    (takes : (debugger.rulebook policy).Takes transition)
    (shown : transition.state ∈ debugger.states) (alive : transition.state ≠ .terminated)
    (occurs : debugger.exit.OccursIn transition.text) {rule : Rule}
    (here : ((debugger.rulebook policy).rules transition.state)[transition.index]? = some rule) :
    rule.pattern ∈ debugger.revivals ∨ rule.pattern = debugger.exit := by
  obtain ⟨earlier, later, watches, revives⟩ := exists_exit_watched shown alive
  have listed : ∀ place : Nat, (earlier ++ debugger.exit :: later)[place]? =
      ((debugger.rulebook policy).rules transition.state)[place]?.map Rule.pattern := by
    intro place
    rw [← watches, ← map_pattern_rules debugger policy, List.getElem?_map]
  have patterned := listed transition.index
  rw [here, Option.map_some] at patterned
  rcases Nat.lt_trichotomy transition.index earlier.length with before | same | beyond
  · rw [List.getElem?_append_left before] at patterned
    exact .inl (revives _ (List.mem_of_getElem? patterned))
  · rw [same, List.getElem?_append_right (Nat.le_refl _), Nat.sub_self] at patterned
    exact .inr (Option.some.inj patterned).symm
  · -- The rule of the exit notice would have come first.
    have exits := listed earlier.length
    rw [List.getElem?_append_right (Nat.le_refl _), Nat.sub_self] at exits
    obtain ⟨other, there, pattern⟩ := Option.map_eq_some_iff.mp exits.symm
    exact absurd (pattern ▸ occurs) (takes.least earlier.length beyond other there)

/-! ## The notice stays until its rule fires -/

variable {text word rest : List Char}
  (exits : debugger.exit.node.Spells word rest)
  (unrevived : ∀ pattern ∈ debugger.revivals, ¬ pattern.OccursIn rest)
include exits unrevived

/-- What a revival takes ends in front of an exit notice that no revival follows. -/
theorem exists_left_of_revival {notice : Pattern × Reaction} (noticed : notice ∈ debugger.notices)
    (revives : notice.1 ∈ debugger.revivals) {finding : Finding}
    (found : (⟨notice.1, fun _ => notice.2⟩ : Rule).find? text = some finding)
    {front : List Char} (shape : text = front ++ (word ++ rest)) :
    ∃ between, text.drop finding.consumed = between ++ (word ++ rest) := by
  have plain := (notice_tidy noticed fun _ => notice.2).plain
  obtain ⟨-, -, skipped, read, behind, parts, spells, span, -⟩ := Rule.find?_spells plain found
  have consumed := (notice_tidy noticed _).consumed found
  rw [span, Nat.add_zero] at consumed
  rcases exits.ends_in_front (disjoint_exit revives) spells (parts.symm.trans shape) with
    ⟨between, -, left⟩ | ⟨between, follows⟩
  · refine ⟨between, ?_⟩
    have taken : finding.consumed = (skipped ++ read).length := by
      rw [consumed, List.length_append]
    rw [taken, parts, ← List.append_assoc, List.drop_left, left]
  · refine absurd ?_ (unrevived _ revives)
    exact (occursIn_iff_spells plain).mpr ⟨between, read, behind, follows, spells⟩

/-- A chain on a text with an exit notice that no revival follows comes to the end of the
program, whatever stands in front of the notice. -/
theorem chain_terminates {state final : RunState} {last : List Char}
    {transitions : List Transition}
    (chain : (debugger.rulebook policy).Chain state text transitions final last)
    (shown : state ∈ debugger.states) (alive : state ≠ .terminated) {front : List Char}
    (shape : text = front ++ (word ++ rest)) :
    ∃ transition ∈ transitions, transition.reaction = .terminate := by
  have occurs {text front : List Char} (shape : text = front ++ (word ++ rest)) :
      debugger.exit.OccursIn text :=
    (occursIn_iff_spells (notice_tidy debugger.exit_noticed fun _ => .terminate).plain).mpr
      ⟨front, word, rest, shape, exits⟩
  induction chain generalizing front with
  | @quiet state text silent =>
    obtain ⟨earlier, later, watches, -⟩ := exists_exit_watched shown alive
    have watched : debugger.exit ∈ debugger.watched state := by
      rw [watches]
      simp
    obtain ⟨rule, member, same⟩ := exists_rule_of_watched policy watched
    exact absurd (same ▸ occurs shape) (silent rule member)
  | idle takes nothing =>
    exact absurd nothing (takes.segment_ne_nil (debugger.rulebook_tidy policy))
  | @step transition left later state text takes something parts chain inductionHypothesis =>
    obtain ⟨rule, here, found, reacts⟩ := takes.fires
    have member := List.mem_of_getElem? here
    rcases pattern_of_takes takes shown alive (occurs shape) here with revives | exit
    · obtain ⟨notice, noticed, same⟩ := exists_revival revives
      obtain rfl := rule_of_notice member noticed same
      obtain ⟨between, dropped⟩ :=
        exists_left_of_revival exits unrevived noticed revives found shape
      have rests : left = between ++ (word ++ rest) := (transition.rest_eq parts).trans dropped
      have next : transition.reaction.next ≠ .terminated := by
        rw [reacts]
        exact next_ne_terminated noticed revives
      obtain ⟨ending, inside, ends⟩ := inductionHypothesis
        ((debugger.rulebook_closed policy).takes takes shown) next rests
      exact ⟨ending, List.mem_cons_of_mem _ inside, ends⟩
    · obtain rfl := rule_of_notice member debugger.exit_noticed exit
      exact ⟨transition, List.mem_cons_self, reacts⟩

omit exits unrevived

/-- No exit goes unnoticed. Whatever has been fed before, if the program is not gone and
the text of a listener with a chunk contains an exit notice that no revival follows, then
feeding this chunk reports the end of the program, whatever else stands in front of the
notice or behind it. -/
theorem exit_reported (debugger : Debugger) (options : Options) (history : List (List UInt8))
    {listener : Listener} (reached : ((debugger.listener options).feedAll history).2 = listener)
    (alive : listener.state = .running ∨ listener.state = .paused) (chunk : List UInt8)
    {front notice rest : List Char}
    (contains : (listener.hear chunk).buffer = front ++ (notice ++ rest))
    (exits : debugger.exit.node.Spells notice rest)
    (unrevived : ∀ pattern ∈ debugger.revivals, ¬ pattern.OccursIn rest) :
    .terminated ∈ (listener.feed chunk).1 := by
  obtain ⟨-, book, -, shown⟩ := debugger.listener_settled options history
  rw [reached] at book shown
  have remains : listener.state ≠ .terminated := by
    rcases alive with state | state <;> simp [state]
  obtain ⟨transitions, state, text, settled, chain⟩ := (listener.hear chunk).settle_chain
  have rules : (listener.hear chunk).book = debugger.rulebook options.policy := book
  rw [rules] at chain
  obtain ⟨transition, member, ends⟩ := chain_terminates exits unrevived chain shown remains contains
  have fired : transition.firing ∈ (listener.hear chunk).settle.1 := by
    rw [settled]
    exact List.mem_map_of_mem member
  have reported : Event.terminated ∈
      (listener.hear chunk).settle.1.filterMap (·.reaction.event) :=
    List.mem_filterMap.mpr ⟨transition.firing, fired, congrArg Reaction.event ends⟩
  exact List.mem_append_left _ reported

/-- The exit that lldb reports behind a stop and a resumption, in front of a location and
its prompt. -/
theorem exit_reported_between_stop_and_prompt :
    let listener := Debugger.lldb.listener .standard
    let chunk := Utf8.encode ("Process 7 stopped\nProcess 7 resuming\n".toList ++
      "Process 7 exited with status = 0\n at a.c:5:1\n(lldb) (lldb) ".toList)
    .terminated ∈ (listener.feed chunk).1 := by
  intro listener chunk
  let front := "\nProcess 7 stopped\nProcess 7 resuming\n".toList
  let notice := "Process ".toList ++ "7".toList ++ " exited with status".toList
  let rest := " = 0\n at a.c:5:1\n(lldb) (lldb) ".toList
  have contains : (listener.hear chunk).buffer = front ++ (notice ++ rest) := by
    decide +kernel
  have exits : Debugger.lldb.exit.node.Spells notice rest :=
    (processNotice_spells (digits_ofNat 7) " exited with status").of_free rfl rest
  have missed : ∀ pattern ∈ Debugger.lldb.revivals,
      (⟨pattern, fun _ => .pause⟩ : Rule).find? rest = none := by
    decide
  have unrevived : ∀ pattern ∈ Debugger.lldb.revivals, ¬ pattern.OccursIn rest :=
    fun pattern member => Rule.find?_eq_none_iff.mp (missed pattern member)
  exact exit_reported .lldb .standard [] rfl (.inl rfl) chunk contains exits unrevived

end Debugger

end DebugConsole
