import DebugConsole.Proofs.Debugger.Marker
import DebugConsole.Proofs.Listener.Settled

/-!
# The rules of the debuggers

What is read off the patterns of the debuggers by evaluation: each of their rules is
tidy, and each of their matches is at least two characters long. So every listener of a
debugger is settled between chunks, whatever it has heard, and it is never in a state
that the debugger's console cannot show.
-/

namespace DebugConsole

open Pattern

/-- Whether all that a node spells is compact. -/
def Pattern.Node.compact (node : Node) : Bool :=
  node.leads.head?.any (fun members => !members.contains Utf8.replacement) &&
    !node.continues '\n' && !node.ends Utf8.replacement

theorem Pattern.Node.Spells.compact {node : Node} {read rest : List Char}
    (spells : node.Spells read rest) (isCompact : node.compact = true) : Compact read := by
  simp only [Node.compact, Bool.and_eq_true, Bool.not_eq_true', Option.any_eq_true] at isCompact
  obtain ⟨⟨⟨members, head, apart⟩, unbroken⟩, unended⟩ := isCompact
  obtain ⟨character, more, shape, admitted⟩ := spells.head_mem head
  refine ⟨by simp [shape], ?_, fun last => ?_, fun inside => ?_⟩
  · rw [shape, List.head?_cons]
    intro same
    rw [Option.some.inj same, apart] at admitted
    cases admitted
  · rw [spells.ends last] at unended
    cases unended
  · rw [spells.continues inside] at unbroken
    cases unbroken

/-- Whether a rule for a pattern is tidy and leaves nothing of a match in place. -/
def Pattern.tidy (pattern : Pattern) : Bool :=
  pattern.node.plain && pattern.node.compact && (pattern.node.free || pattern.node.closes) &&
    pattern.names == []

theorem Rule.tidy_of_pattern {rule : Rule} (isTidy : rule.pattern.tidy = true) :
    rule.Tidy 0 := by
  simp only [Pattern.tidy, Bool.and_eq_true, Bool.or_eq_true, beq_iff_eq] at isTidy
  obtain ⟨⟨⟨isPlain, isCompact⟩, ending⟩, unnamed⟩ := isTidy
  refine ⟨isPlain, by omega, fun {read rest} spells => ?_, fun {read rest} spells some other => ?_,
    fun {text finding} success => ?_⟩
  · exact ⟨read, [], by simp, rfl, spells.compact isCompact⟩
  · rcases ending with isFree | isClosed
    · exact spells.of_free isFree other
    · exact absurd (spells.rest_eq_nil isClosed) some
  · have pattern := (rule.find?_spells isPlain success).2.1
    exact Finding.consumed_eq_stop (pattern ▸ unnamed)

/-- A rule whose last part is the tail leaves one character in place. -/
theorem Rule.tidy_of_tail {rule : Rule} (parts : List Node) (members : CharSet)
    (form : rule.pattern.node = .ofList (parts ++ [.group 3 (.set members)]))
    (isPlain : rule.pattern.node.plain = true) (isFree : rule.pattern.node.free = true)
    (isCompact : (Node.ofList parts).compact = true)
    (named : rule.pattern.groupNumber? Finding.tailName = some 3) : rule.Tidy 1 := by
  refine ⟨isPlain, by omega, fun {read rest} spells => ?_, fun spells _ other =>
    spells.of_free isFree other, Marker.consumed_of_tail parts members form isPlain named⟩
  rw [form, Node.spells_ofList_append] at spells
  obtain ⟨core, last, rfl, spells, character, rfl, -⟩ := spells
  exact ⟨core, [character], rfl, rfl, spells.compact isCompact⟩

namespace Debugger

open Pattern.Node

variable {debugger : Debugger} {policy : Location.Policy}

theorem notice_tidy {notice : Pattern × Reaction} (member : notice ∈ debugger.notices)
    (react : Finding → Reaction) : (⟨notice.1, react⟩ : Rule).Tidy 0 := by
  have inspected : ∀ notice ∈ debugger.notices, notice.1.tidy = true := by
    cases debugger <;> decide
  exact Rule.tidy_of_pattern (inspected notice member)

theorem location_tidy (debugger : Debugger) (react : Finding → Reaction) :
    (⟨debugger.location, react⟩ : Rule).Tidy debugger.marker.kept := by
  cases debugger
  · exact Rule.tidy_of_pattern (show Gdb.location.tidy = true by decide)
  · exact Rule.tidy_of_tail (characters " at " ++
      [.group 1 (.except [':', '\r', '\n']), char ':', .group 2 number])
      (.complement .digit) rfl rfl rfl (by decide) rfl
  · exact Rule.tidy_of_pattern (show Pdb.location.tidy = true by decide)
  · exact Rule.tidy_of_tail ([lineBreak, char '(', .group 1 (.except [':', '\r', '\n']),
      char ':', .group 2 number] ++ characters "):") breakSet rfl rfl rfl (by decide) rfl

theorem rulebook_tidy (debugger : Debugger) (policy : Location.Policy) :
    (debugger.rulebook policy).Tidy := by
  intro state rule member
  rcases mem_rules member with rfl | ⟨notice, noticed, rfl⟩
  · exact ⟨_, debugger.location_tidy _⟩
  · exact ⟨0, notice_tidy noticed _⟩

/-- All patterns of a debugger. -/
def patterns (debugger : Debugger) : List Pattern :=
  debugger.location :: debugger.notices.map Prod.fst

theorem pattern_mem {state : RunState} {rule : Rule}
    (member : rule ∈ (debugger.rulebook policy).rules state) :
    rule.pattern ∈ debugger.patterns := by
  rcases mem_rules member with rfl | ⟨notice, noticed, rfl⟩
  · exact List.mem_cons_self
  · exact List.mem_cons_of_mem _ (List.mem_map_of_mem noticed)

theorem pattern_plain {pattern : Pattern} (member : pattern ∈ debugger.patterns) :
    pattern.node.plain = true := by
  have inspected : ∀ pattern ∈ debugger.patterns, pattern.node.plain = true := by
    cases debugger <;> decide
  exact inspected pattern member

/-- Every match is at least two characters long. -/
theorem two_le_length {pattern : Pattern} (member : pattern ∈ debugger.patterns)
    {read rest : List Char} (spells : pattern.node.Spells read rest) : 2 ≤ read.length := by
  have inspected : ∀ pattern ∈ debugger.patterns, 2 ≤ pattern.node.leads.length := by
    cases debugger <;> decide
  exact Nat.le_trans (inspected pattern member) spells.leads_length_le

/-- Nothing occurs in a text that is spelled nowhere in it. -/
theorem quiet_of_unspelled {state : RunState} {text : List Char}
    (unspelled : ∀ rule ∈ (debugger.rulebook policy).rules state, ∀ skipped read rest,
      text = skipped ++ (read ++ rest) → ¬ rule.pattern.node.Spells read rest) :
    (debugger.rulebook policy).Quiet state text := by
  intro rule member occurs
  obtain ⟨skipped, read, rest, shape, spells⟩ :=
    (occursIn_iff_spells (pattern_plain (pattern_mem member))).mp occurs
  exact unspelled rule member skipped read rest shape spells

theorem quiet_of_short {text : List Char} (short : text.length ≤ 1) (state : RunState) :
    (debugger.rulebook policy).Quiet state text := by
  apply quiet_of_unspelled
  intro rule member skipped read rest shape spells
  have long := two_le_length (pattern_mem member) spells
  rw [shape, List.length_append, List.length_append] at short
  omega

/-- A rule reports a location, or what one of the notices says. -/
theorem event_cases {state : RunState} {rule : Rule}
    (member : rule ∈ (debugger.rulebook policy).rules state) {finding : Finding} {event : Event}
    (reported : (rule.react finding).event = some event) :
    (∃ location, finding.location policy = .ok location ∧ event = .jumpTo location) ∨
      event ∈ [Event.readyForQuery, .resumedRunning, .terminated] := by
  have inspected : ∀ notice ∈ debugger.notices, ∀ event, notice.2.event = some event →
      event ∈ [Event.readyForQuery, .resumedRunning, .terminated] := by
    cases debugger <;>
      simp [notices, Reaction.query, Reaction.resume, Reaction.terminate, Reaction.pause]
  rcases mem_rules member with rfl | ⟨notice, noticed, rfl⟩
  · dsimp only at reported
    rcases jump_cases policy state finding with ⟨location, resolved, jumps⟩ | ⟨fault, -, stays⟩
    · rw [jumps] at reported
      exact .inl ⟨location, resolved, (Option.some.inj reported).symm⟩
    · rw [stays] at reported
      cases reported
  · exact .inr (inspected notice noticed event reported)

/-- No rule leads to a state that the debugger's console cannot show. -/
theorem rulebook_closed (debugger : Debugger) (policy : Location.Policy) :
    (debugger.rulebook policy).Closed (· ∈ debugger.states) := by
  have paused : RunState.paused ∈ debugger.states := by
    cases debugger <;> decide
  have noticed : ∀ notice ∈ debugger.notices, notice.2.next ∈ debugger.states := by
    cases debugger <;> decide
  intro state here rule member finding
  rcases mem_rules member with rfl | ⟨notice, inside, rfl⟩
  · dsimp only
    rcases jump_cases policy state finding with ⟨location, -, jumps⟩ | ⟨fault, -, stays⟩
    · rw [jumps]
      exact paused
    · rw [stays]
      exact here
  · exact noticed notice inside

theorem start_mem_states (debugger : Debugger) : debugger.start ∈ debugger.states := by
  cases debugger <;> decide

/-- Whatever a listener of a debugger has heard, it is settled, and it still has the rules
and the bounds it started with. -/
theorem listener_settled (debugger : Debugger) (options : Options)
    (chunks : List (List UInt8)) :
    ((debugger.listener options).feedAll chunks).2.Settled ∧
      ((debugger.listener options).feedAll chunks).2.book = debugger.rulebook options.policy ∧
      ((debugger.listener options).feedAll chunks).2.bounds = options.bounds ∧
      ((debugger.listener options).feedAll chunks).2.state ∈ debugger.states := by
  have quiet : (debugger.rulebook options.policy).Quiet debugger.start ['\n'] :=
    quiet_of_short (by simp) _
  exact Listener.Settled.feedAll ⟨quiet, .none⟩ (debugger.rulebook_tidy options.policy)
    (debugger.rulebook_closed options.policy) debugger.start_mem_states chunks

/-! ## While a text is awaited -/

/-- The patterns that a debugger's rules look for in a state. -/
def watched (debugger : Debugger) (state : RunState) : List Pattern :=
  ((debugger.rulebook .verbatim).rules state).map Rule.pattern

theorem map_pattern_rules (debugger : Debugger) (policy : Location.Policy) (state : RunState) :
    ((debugger.rulebook policy).rules state).map Rule.pattern = debugger.watched state := by
  have listed : ∀ book : Rulebook, (book.rules state).map Rule.pattern =
      (book.entries.map fun entry => (entry.1, entry.2.pattern)).filterMap
        fun entry => if entry.1 = state then some entry.2 else none := by
    intro book
    rw [Rulebook.rules, List.map_filterMap, List.filterMap_map]
    apply List.filterMap_congr
    intro entry _
    by_cases same : entry.1 = state <;> simp [same]
  have entries : ((debugger.rulebook policy).entries.map fun entry => (entry.1, entry.2.pattern)) =
      (debugger.rulebook .verbatim).entries.map fun entry => (entry.1, entry.2.pattern) := by
    cases debugger <;>
      simp only [rulebook, Gdb.rulebook, Lldb.rulebook, Pdb.rulebook, Bashdb.rulebook,
        List.map_cons, List.map_nil]
  rw [watched, listed, listed, entries]

theorem pattern_watched {state : RunState} {rule : Rule}
    (member : rule ∈ (debugger.rulebook policy).rules state) :
    rule.pattern ∈ debugger.watched state := by
  rw [← map_pattern_rules debugger policy]
  exact List.mem_map_of_mem member

theorem exists_rule_of_watched (policy : Location.Policy) {state : RunState} {pattern : Pattern}
    (watched : pattern ∈ debugger.watched state) :
    ∃ rule ∈ (debugger.rulebook policy).rules state, rule.pattern = pattern := by
  rw [← map_pattern_rules debugger policy] at watched
  exact List.mem_map.mp watched

/-- The states of a listener that awaits a text: the one it was in, and the paused one
where a location may still lead to it. -/
def Awaiting (state other : RunState) : Prop := other = state ∨ state ≠ .running ∧ other = .paused

/-- The events that may still come of what was heard before an awaited text. -/
def Carried (debugger : Debugger) (event : Event) : Prop :=
  debugger.marker.kept ≠ 0 ∧ ∃ location, event = .jumpTo location

/-- What is watched for in a state is watched for as long as the listener awaits a text. -/
theorem Awaiting.watched {debugger : Debugger} {state other : RunState}
    (awaiting : Awaiting state other) {pattern : Pattern}
    (member : pattern ∈ debugger.watched state) : pattern ∈ debugger.watched other := by
  rcases awaiting with rfl | ⟨stopped, rfl⟩
  · exact member
  · have kept : ∀ state ≠ RunState.running, ∀ pattern ∈ debugger.watched state,
        pattern ∈ debugger.watched .paused := by
      intro state stopped
      cases debugger <;> cases state <;> first | exact absurd rfl stopped | decide
    exact kept state stopped pattern member

theorem Awaiting.stays {state other : RunState} (awaiting : Awaiting state other) :
    ∀ rule ∈ (debugger.rulebook policy).rules other, rule.Tidy 0 ∨ ∀ finding,
      Awaiting state (rule.react finding).next ∧
        ∀ event ∈ (rule.react finding).event, debugger.Carried event := by
  intro rule member
  have seen := pattern_watched member
  rcases mem_rules member with rfl | ⟨notice, noticed, rfl⟩
  swap
  · exact .inl (notice_tidy noticed _)
  by_cases none : debugger.marker.kept = 0
  · exact .inl (none ▸ debugger.location_tidy _)
  right
  have stopped : other ≠ .running := by
    rintro rfl
    cases debugger with
    | gdb | pdb => exact none rfl
    | lldb => exact absurd seen (show Lldb.location ∉ Debugger.lldb.watched RunState.running by decide)
    | bashdb => exact absurd seen (show Bashdb.location ∉ Debugger.bashdb.watched RunState.running by decide)
  intro finding
  dsimp only
  rcases jump_cases policy other finding with ⟨location, -, jumps⟩ | ⟨fault, -, remains⟩
  · rw [jumps]
    refine ⟨.inr ⟨?_, rfl⟩, by simpa using ⟨none, location, rfl⟩⟩
    rintro rfl
    rcases awaiting with same | ⟨impossible, -⟩
    · exact stopped same
    · exact impossible rfl
  · rw [remains]
    exact ⟨awaiting, by simp⟩

end Debugger

end DebugConsole
