import DebugConsole.Proofs.Debugger.Rules
import DebugConsole.Proofs.Listener.Arrival
import DebugConsole.Proofs.Location

/-!
# Notices are understood from any history

`Debugger.Announces` lists what the debuggers print as notices and prompts. Each of them
is expected by the rulebook in every state that looks for it, since the patterns of one
debugger exclude each other: each needs a character that no other one admits. And none is
spelled inside itself, so nothing is left over that could fire again.
-/

namespace DebugConsole

open Pattern

namespace Pattern.Node

/-- Whether a node needs a character, other than a line feed, that a target does not
admit. -/
def excludes (target other : Node) : Bool :=
  other.needs.any fun character => character != '\n' && !target.admits character

/-- Whether what a node spells cannot be found again behind its first character: it starts
with characters that it does not continue with, or all that it spells has one length. -/
def solitary (node : Node) : Bool :=
  node.fixed || (node.leads.head?.bind CharSet.listed).any fun starts =>
    starts.all fun character => !node.continues character

variable {target other : Node} {read rest skipped read' rest' behind : List Char}

theorem unspelled_of_excludes (apart : target.excludes other = true)
    (spells : target.Spells read rest) {lead : List Char}
    (blank : ∀ character ∈ lead, character = '\n')
    (shape : lead ++ read = skipped ++ (read' ++ behind)) : ¬ other.Spells read' rest' := by
  intro spells'
  obtain ⟨character, needed, apart⟩ := List.any_eq_true.mp apart
  obtain ⟨visible, refused⟩ := (Bool.and_eq_true _ _).mp apart
  have inside : character ∈ lead ++ read := by
    rw [shape]
    exact List.mem_append_right _ (List.mem_append_left _ (spells'.needs needed))
  rcases List.mem_append.mp inside with inside | inside
  · rw [blank character inside] at visible
    exact absurd visible (by decide)
  · rw [spells.admits inside] at refused
    cases refused

theorem unspelled_of_solitary (alone : target.solitary = true) (spells : target.Spells read rest)
    (some : read' ≠ []) (shape : read.tail = skipped ++ (read' ++ behind)) :
    ¬ target.Spells read' rest' := by
  intro spells'
  rcases (Bool.or_eq_true _ _).mp alone with isFixed | starts
  · have total := congrArg List.length shape
    have positive := List.length_pos_iff.mpr some
    simp only [List.length_tail, List.length_append] at total
    rw [spells.length_of_fixed isFixed, ← spells'.length_of_fixed isFixed] at total
    omega
  · obtain ⟨starts, bound, apart⟩ := (Option.any_eq_true _ _).mp starts
    obtain ⟨members, head, lists⟩ := Option.bind_eq_some_iff.mp bound
    obtain ⟨character, more, rfl, admitted⟩ := spells'.head_mem head
    have refused := List.all_eq_true.mp apart character (CharSet.mem_of_listed lists admitted)
    have inside : character ∈ read.tail := by
      rw [shape]
      simp
    rw [spells.continues inside] at refused
    cases refused

end Pattern.Node

namespace Debugger

open Pattern.Node

variable {debugger : Debugger} {policy : Location.Policy}

/-- The pattern of a debugger's prompt. -/
def prompt : Debugger → Pattern
  | .gdb => Gdb.prompt
  | .lldb => Lldb.prompt
  | .pdb => Pdb.prompt
  | .bashdb => Bashdb.prompt

/-- One or more decimal digits, those of ASCII among them. -/
def Digits (text : List Char) : Prop :=
  text ≠ [] ∧ ∀ character ∈ text, Text.isDigit character = true

theorem digits_ofNat (number : Nat) : Digits (Numeral.ofNat number) :=
  ⟨Numeral.ofNat_ne_nil number, fun _ member =>
    Text.isDigit_of_ascii (Numeral.ofNat_isDigit member)⟩

/-- What a debugger prints, behind a line feed, as the notice or prompt that a pattern is
there for. -/
inductive Announces : Debugger → Pattern → List Char → Prop where
  | gdbContinuing : Announces .gdb Gdb.continuing "Continuing.".toList
  | gdbStarting : Announces .gdb Gdb.starting "Starting program: ".toList
  | gdbExited {inferior process : List Char} (inferiorDigits : Digits inferior)
      (processDigits : Digits process) :
      Announces .gdb Gdb.exited ("[Inferior ".toList ++ inferior ++ " (process ".toList ++
        process ++ ") exited".toList)
  | gdbBreakpoint {number : List Char} (digits : Digits number) :
      Announces .gdb Gdb.breakpoint ("Breakpoint ".toList ++ number)
  | gdbPrompt : Announces .gdb Gdb.prompt "\x1a\x1a\x1a".toList
  | lldbResuming {process : List Char} (digits : Digits process) :
      Announces .lldb Lldb.resuming ("Process ".toList ++ process ++ " resuming".toList)
  | lldbLaunched {process : List Char} (digits : Digits process) :
      Announces .lldb Lldb.launched ("Process ".toList ++ process ++ " launched".toList)
  | lldbExited {process : List Char} (digits : Digits process) :
      Announces .lldb Lldb.exited ("Process ".toList ++ process ++ " exited with status".toList)
  | lldbStopped {process : List Char} (digits : Digits process) :
      Announces .lldb Lldb.stopped ("Process ".toList ++ process ++ " stopped".toList)
  | lldbPrompt : Announces .lldb Lldb.prompt "(lldb) (lldb) ".toList
  | pdbFinished :
      Announces .pdb Pdb.finished "The program finished and will be restarted".toList
  | pdbPrompt : Announces .pdb Pdb.prompt "(Pdb) ".toList
  | bashdbTerminated :
      Announces .bashdb Bashdb.terminated "Debugged program terminated ".toList
  | bashdbPrompt {number : List Char} (digits : Digits number) :
      Announces .bashdb Bashdb.prompt ("bashdb<".toList ++ number ++ "> ".toList)
  | bashdbNested {number : List Char} (digits : Digits number) :
      Announces .bashdb Bashdb.prompt ("bashdb<(".toList ++ number ++ ")> ".toList)

theorem Announces.noticed {pattern : Pattern} {text : List Char}
    (announces : debugger.Announces pattern text) :
    ∃ notice ∈ debugger.notices, notice.1 = pattern := by
  cases announces <;> simp [notices]

/-- Every rule but that of the locations is there for something that can be announced. -/
theorem exists_announces {state : RunState} {rule : Rule}
    (member : rule ∈ (debugger.rulebook policy).rules state)
    (apart : rule.pattern ≠ debugger.location) : ∃ text, debugger.Announces rule.pattern text := by
  have one := digits_ofNat 1
  have inspected : ∀ notice ∈ debugger.notices, ∃ text, debugger.Announces notice.1 text := by
    cases debugger
    all_goals
      intro notice noticed
      simp only [notices, List.mem_cons, List.not_mem_nil, or_false] at noticed
    · rcases noticed with rfl | rfl | rfl | rfl | rfl
      exacts [⟨_, .gdbContinuing⟩, ⟨_, .gdbStarting⟩, ⟨_, .gdbExited one one⟩,
        ⟨_, .gdbBreakpoint one⟩, ⟨_, .gdbPrompt⟩]
    · rcases noticed with rfl | rfl | rfl | rfl | rfl
      exacts [⟨_, .lldbResuming one⟩, ⟨_, .lldbLaunched one⟩, ⟨_, .lldbStopped one⟩,
        ⟨_, .lldbExited one⟩, ⟨_, .lldbPrompt⟩]
    · rcases noticed with rfl | rfl
      exacts [⟨_, .pdbFinished⟩, ⟨_, .pdbPrompt⟩]
    · rcases noticed with rfl | rfl
      exacts [⟨_, .bashdbTerminated⟩, ⟨_, .bashdbPrompt one⟩]
  rcases mem_rules member with rfl | ⟨notice, noticed, rfl⟩
  · exact absurd rfl apart
  · exact inspected notice noticed

theorem Digits.spells {text : List Char} (digits : Digits text) (rest : List Char) :
    (ofList [number]).Spells text rest := digits

theorem lineBreak_spells {nodes : List Node} {text rest : List Char}
    (spells : (ofList nodes).Spells text rest) :
    (ofList (lineBreak :: nodes)).Spells ('\n' :: text) rest := by
  have breaks : lineBreak.Spells ['\n'] (text ++ rest) := ⟨'\n', rfl, rfl⟩
  exact breaks.cons spells

/-- What lldb says about a process. -/
theorem processNotice_spells {process : List Char} (digits : Digits process) (ending : String) :
    (ofList (Lldb.processNotice ending)).Spells
      ("Process ".toList ++ process ++ ending.toList) [] :=
  ((characters_spells _ _).append (digits.spells _)).append (characters_spells _ _)

/-- An announcement is spelled by its pattern, with the line feed in front of it or
without. -/
theorem Announces.spells {pattern : Pattern} {text : List Char}
    (announces : debugger.Announces pattern text) :
    pattern.node.Spells ('\n' :: text) [] ∨ pattern.node.Spells text [] := by
  have ended : (ofList [textEnd]).Spells [] [] := ⟨rfl, rfl⟩
  cases announces with
  | gdbContinuing => exact .inl (lineBreak_spells (characters_spells "Continuing." []))
  | gdbStarting => exact .inl (lineBreak_spells (characters_spells "Starting program: " []))
  | gdbExited inferiorDigits processDigits =>
    exact .inl (lineBreak_spells (((((characters_spells "[Inferior " _).append
      (inferiorDigits.spells _)).append (characters_spells " (process " _)).append
      (processDigits.spells _)).append (characters_spells ") exited" [])))
  | gdbBreakpoint digits =>
    exact .inl (lineBreak_spells ((characters_spells "Breakpoint " _).append (digits.spells [])))
  | gdbPrompt => exact .inr ((characters_spells "\x1a\x1a\x1a" _).append ended)
  | lldbResuming digits => exact .inr (processNotice_spells digits " resuming")
  | lldbLaunched digits => exact .inr (processNotice_spells digits " launched")
  | lldbExited digits => exact .inr (processNotice_spells digits " exited with status")
  | lldbStopped digits => exact .inr (processNotice_spells digits " stopped")
  | lldbPrompt =>
    have blank : (Node.set .blank).Spells ['\n'] ("(lldb) (lldb) ".toList ++ [] ++ []) :=
      ⟨'\n', rfl, rfl⟩
    exact .inl (blank.cons ((characters_spells "(lldb) (lldb) " _).append ended))
  | pdbFinished =>
    exact .inl (lineBreak_spells
      (characters_spells "The program finished and will be restarted" []))
  | pdbPrompt => exact .inl (lineBreak_spells ((characters_spells "(Pdb) " _).append ended))
  | bashdbTerminated =>
    exact .inl (lineBreak_spells (characters_spells "Debugged program terminated " []))
  | @bashdbPrompt number digits =>
    have inner : (ofList [.optional true (char '('), Node.number, .optional true (char ')')]).Spells
        ([] ++ (number ++ [])) ("> ".toList ++ ([] ++ [])) :=
      Spells.cons (.inl rfl) (Spells.cons digits (.inl rfl))
    have shape : "bashdb<".toList ++ number ++ "> ".toList =
        "bashdb<".toList ++ ([] ++ (number ++ [])) ++ "> ".toList ++ [] := by simp
    rw [shape]
    exact .inl (lineBreak_spells ((((characters_spells "bashdb<" _).append inner).append
      (characters_spells "> " _)).append ended))
  | @bashdbNested number digits =>
    have inner : (ofList [.optional true (char '('), Node.number, .optional true (char ')')]).Spells
        (['('] ++ (number ++ [')'])) ("> ".toList ++ ([] ++ [])) :=
      Spells.cons (.inr (spells_char.mpr rfl)) (Spells.cons digits (.inr (spells_char.mpr rfl)))
    have shape : "bashdb<(".toList ++ number ++ ")> ".toList =
        "bashdb<".toList ++ (['('] ++ (number ++ [')'])) ++ "> ".toList ++ [] := by simp
    rw [shape]
    exact .inl (lineBreak_spells ((((characters_spells "bashdb<" _).append inner).append
      (characters_spells "> " _)).append ended))

/-! ## Expected notices -/

/-- The patterns of a debugger exclude each other, but for the one that is announced. -/
theorem excludes_of_ne {notice : Pattern × Reaction} (noticed : notice ∈ debugger.notices)
    {pattern : Pattern} (member : pattern ∈ debugger.patterns) (apart : pattern ≠ notice.1) :
    notice.1.node.excludes pattern.node = true := by
  have inspected : ∀ notice ∈ debugger.notices, ∀ pattern ∈ debugger.patterns,
      pattern ≠ notice.1 → notice.1.node.excludes pattern.node = true := by
    cases debugger <;> decide
  exact inspected notice noticed pattern member apart

theorem solitary_notice {notice : Pattern × Reaction} (noticed : notice ∈ debugger.notices) :
    notice.1.node.solitary = true := by
  have inspected : ∀ notice ∈ debugger.notices, notice.1.node.solitary = true := by
    cases debugger <;> decide
  exact inspected notice noticed

/-- The rule for the pattern of a notice is that of the notice. -/
theorem rule_of_notice {state : RunState} {rule : Rule}
    (member : rule ∈ (debugger.rulebook policy).rules state) {notice : Pattern × Reaction}
    (noticed : notice ∈ debugger.notices) (same : rule.pattern = notice.1) :
    rule = ⟨notice.1, fun _ => notice.2⟩ := by
  have apart : ∀ notice ∈ debugger.notices, debugger.location ≠ notice.1 := by
    cases debugger <;> decide
  have unique : ∀ notice ∈ debugger.notices, ∀ other ∈ debugger.notices,
      other.1 = notice.1 → other.2 = notice.2 := by
    cases debugger <;> decide
  rcases mem_rules member with rfl | ⟨other, inside, rfl⟩
  · exact absurd same (apart notice noticed)
  · rw [unique notice noticed other inside same]
    exact congrArg (Rule.mk · _) same

section Spelled

variable {notice : Pattern × Reaction} (noticed : notice ∈ debugger.notices) {text : List Char}
  (spelled : notice.1.node.Spells ('\n' :: text) [] ∨ notice.1.node.Spells text [])
include noticed spelled

/-- In an announcement behind a line feed nothing is spelled but the notice, and that not
again behind the first two characters. -/
theorem unspelled_in_notice {pattern : Pattern} (member : pattern ∈ debugger.patterns)
    {skipped read rest behind : List Char} (shape : '\n' :: text = skipped ++ (read ++ behind))
    (else' : pattern ≠ notice.1 ∨ 2 ≤ skipped.length) : ¬ pattern.node.Spells read rest := by
  intro spells
  obtain ⟨lead, whole, parts, short, blank, spelled⟩ : ∃ lead whole, '\n' :: text = lead ++ whole ∧
      lead.length ≤ 1 ∧ (∀ character ∈ lead, character = '\n') ∧
      notice.1.node.Spells whole [] := by
    rcases spelled with spelled | spelled
    · exact ⟨[], _, rfl, by simp, by simp, spelled⟩
    · exact ⟨['\n'], _, rfl, by simp, by simp, spelled⟩
  rw [parts] at shape
  by_cases same : pattern = notice.1
  · subst same
    have far : 2 ≤ skipped.length := else'.resolve_left fun apart => apart rfl
    have some : read ≠ [] :=
      List.ne_nil_of_length_pos (Nat.lt_of_lt_of_le (by decide) (two_le_length member spells))
    have tail : whole.tail = skipped.drop (lead.length + 1) ++ (read ++ behind) := by
      have dropped := congrArg (List.drop (lead.length + 1)) shape
      rwa [← List.drop_drop, List.drop_left, List.drop_one,
        List.drop_append_of_le_length (by omega)] at dropped
    exact unspelled_of_solitary (solitary_notice noticed) spelled some tail spells
  · exact unspelled_of_excludes (excludes_of_ne noticed member same) spelled blank shape spells

/-- Behind a match nothing can fire in the rest of an announcement. -/
theorem inert_behind_match {pattern : Pattern} (member : pattern ∈ debugger.patterns)
    {skipped read rest behind : List Char} (spells : pattern.node.Spells read rest)
    (shape : '\n' :: text = skipped ++ (read ++ behind)) (state : RunState) :
    (debugger.rulebook policy).Inert state behind := by
  rintro arrived ⟨more, rfl⟩
  apply quiet_of_unspelled
  intro rule member' skipped' read' rest' shape' spells'
  have further : '\n' :: text = (skipped ++ (read ++ skipped')) ++ (read' ++ (rest' ++ more)) := by
    rw [shape, shape']
    simp only [List.append_assoc]
  refine unspelled_in_notice noticed spelled (pattern_mem member') further (.inr ?_) spells'
  have long := two_le_length member spells
  simp only [List.length_append]
  omega

/-- A notice is expected in every state that watches for it. -/
theorem expects_notice {state : RunState} (watches : notice.1 ∈ debugger.watched state) :
    (debugger.rulebook policy).Expects (Awaiting state) debugger.Carried text notice.2 where
  tidy := debugger.rulebook_tidy policy
  stays := fun _ awaiting => awaiting.stays
  news := by
    have inspected : ∀ notice ∈ debugger.notices, ∀ event ∈ notice.2.event, event.isNews = true := by
      cases debugger <;> decide
    rintro event (⟨-, location, rfl⟩ | inside)
    · rfl
    · exact inspected notice noticed event inside
  occurs := by
    intro other awaiting
    obtain ⟨rule, member, same⟩ := exists_rule_of_watched policy (awaiting.watched watches)
    refine ⟨rule, member, ?_⟩
    rw [same]
    rcases spelled with spelled | spelled
    · exact ⟨[], _, [], by simp, spelled⟩
    · exact ⟨['\n'], _, [], by simp, spelled⟩
  answers := by
    intro other awaiting rule member finding ahead part due stream found behind
    have patterned := pattern_mem member
    obtain ⟨between, read, rest, rfl, spells, span⟩ :=
      Rule.find?_behind (pattern_plain patterned) found behind
    have whole : '\n' :: text = between ++ (read ++ (rest ++ due)) := by
      rw [← stream]
      simp only [List.append_assoc]
    have same : rule.pattern = notice.1 := by
      by_contra apart
      exact unspelled_in_notice noticed spelled patterned whole (.inl apart) spells
    have inert : (debugger.rulebook policy).Inert notice.2.next (rest ++ due) :=
      inert_behind_match noticed spelled patterned spells whole _
    obtain rfl := rule_of_notice member noticed same
    refine ⟨rfl, ?_⟩
    have consumed := (notice_tidy noticed _).consumed found
    rw [span, Nat.add_zero] at consumed
    have left : (ahead ++ (between ++ (read ++ rest))).drop finding.consumed = rest := by
      have taken : finding.consumed = (ahead ++ (between ++ read)).length := by
        simp only [consumed, List.length_append, Nat.add_assoc]
      have parts : ahead ++ (between ++ (read ++ rest)) = (ahead ++ (between ++ read)) ++ rest := by
        simp only [List.append_assoc]
      rw [taken, parts, List.drop_left]
    rw [left]
    exact inert

end Spelled

/-- Whatever has been heard before, a notice behind a line feed is understood, however it
is cut into pieces: the listener goes to the state of the rule that looks for it, and the
event of that rule, if it has one, is the last that is reported but for text given up.
And behind a prompt every listener is paused and asks for input exactly once. -/
theorem notice_understood (debugger : Debugger) (options : Options)
    (history pieces : List (List UInt8)) {listener : Listener}
    (reached : ((debugger.listener options).feedAll history).2 = listener)
    {pattern : Pattern} {text : List Char} (announces : debugger.Announces pattern text)
    (room : Utf8.byteLength ('\n' :: text) ≤ options.bounds.keepTail)
    (cut : pieces.flatten = Utf8.encode ('\n' :: text)) :
    (∀ rule ∈ (debugger.rulebook options.policy).rules listener.state, rule.pattern = pattern →
      ∀ finding, (listener.feedAll pieces).2.state = (rule.react finding).next ∧
        ∀ event ∈ (rule.react finding).event,
          ((listener.feedAll pieces).1.flatten.filter Event.isNews).getLast? = some event) ∧
    (pattern = debugger.prompt → (listener.feedAll pieces).2.state = .paused ∧
      (listener.feedAll pieces).1.flatten.count .readyForQuery = 1) := by
  obtain ⟨settled, book, bounds, shown⟩ := debugger.listener_settled options history
  rw [reached] at settled book bounds shown
  have understood : ∀ notice ∈ debugger.notices, notice.1 = pattern →
      notice.1 ∈ debugger.watched listener.state → ∃ jumps : List Event,
        (∀ event ∈ jumps, debugger.Carried event) ∧
        (listener.feedAll pieces).1.flatten.filter Event.isNews =
          jumps ++ notice.2.event.toList ∧
        (listener.feedAll pieces).2.state = notice.2.next := by
    rintro notice noticed rfl watches
    have expects : listener.book.Expects (Awaiting listener.state) debugger.Carried text notice.2 := by
      rw [book]
      exact expects_notice noticed announces.spells watches
    exact expects.feedAll settled (.inl rfl) (bounds ▸ room) cut
  constructor
  · intro rule member same finding
    obtain ⟨notice, noticed, rfl⟩ := announces.noticed
    have watches : notice.1 ∈ debugger.watched listener.state := by
      rw [← map_pattern_rules debugger options.policy, ← same]
      exact List.mem_map_of_mem member
    obtain ⟨jumps, -, news, state⟩ := understood notice noticed rfl watches
    rw [rule_of_notice member noticed same]
    refine ⟨state, fun event reports => ?_⟩
    have reports : notice.2.event = some event := reports
    rw [news, reports, Option.toList_some, List.getLast?_concat]
  · rintro rfl
    have noticed : (debugger.prompt, Reaction.query) ∈ debugger.notices := by
      cases debugger <;> simp [notices, prompt]
    have watched : ∀ state ∈ debugger.states, debugger.prompt ∈ debugger.watched state := by
      cases debugger <;> decide
    obtain ⟨jumps, carried, news, state⟩ := understood _ noticed rfl (watched _ shown)
    refine ⟨state, ?_⟩
    have absent : Event.readyForQuery ∉ jumps := by
      intro inside
      obtain ⟨-, location, impossible⟩ := carried _ inside
      cases impossible
    rw [← List.count_filter (show Event.isNews .readyForQuery = true from rfl), news,
      List.count_append, List.count_eq_zero.mpr absent]
    rfl

/-- The prompt of gdb, cut between its characters, behind the beginning of a notice. -/
theorem notice_understood_behind_half_notice :
    let listener := ((Debugger.gdb.listener .standard).feedAll [Utf8.encode "\nContin".toList]).2
    let fed := listener.feedAll [[10, 26], [26], [26]]
    fed.2.state = .paused ∧ fed.1.flatten.count .readyForQuery = 1 :=
  (notice_understood .gdb .standard [Utf8.encode "\nContin".toList] [[10, 26], [26], [26]] rfl
    .gdbPrompt (by decide) (by decide)).2 rfl

end Debugger

end DebugConsole
