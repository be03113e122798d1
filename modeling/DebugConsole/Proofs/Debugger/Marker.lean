import DebugConsole.Debugger.Console
import DebugConsole.Proofs.Pattern.Parts

/-!
# Markers

How the debuggers print a location, in one form: an opening, a file name, a separator, a
line number and a closing. `Marker.find?_writes` reads off a finding which file name and
which line number it is about, once for all debuggers.

`Debugger.mem_rules` says what the rules of a debugger are: its location, and notices
whose reaction does not depend on what was found.
-/

namespace DebugConsole

open Pattern

/-- The form of a printed location. -/
structure Marker where
  /-- What stands in front of the file name, a set for each character. -/
  opening : List CharSet
  /-- Characters that end the file name. -/
  stops : List Char
  /-- What stands between the file name and the line number. -/
  separator : Char
  /-- What stands behind the line number. -/
  closing : List Node
  /-- How many characters of the closing are left in place. -/
  kept : Nat

namespace Marker

/-- The parts of a marker's pattern. -/
def parts (marker : Marker) : List Node :=
  marker.opening.map .set ++
    (.group 1 (.except marker.stops) :: .char marker.separator :: .group 2 .number ::
      marker.closing)

/-- Texts that stand at the places of a marker. -/
structure Writes (marker : Marker) (opening file line : List Char) : Prop where
  opening : List.Forall₂ (fun members character => members.contains character = true)
    marker.opening opening
  file_ne_nil : file ≠ []
  file : ∀ character ∈ file, character ∉ marker.stops
  line_ne_nil : line ≠ []
  line : ∀ character ∈ line, Text.isDigit character = true

theorem spells_sets {sets : List CharSet} {read rest : List Char} :
    (Node.ofList (sets.map .set)).Spells read rest ↔
      List.Forall₂ (fun members character => members.contains character = true) sets read := by
  induction sets generalizing read with
  | nil => simp [Node.spells_ofList_nil]
  | cons members sets inductionHypothesis =>
    rw [List.map_cons, Node.spells_ofList_cons]
    constructor
    · rintro ⟨_, second, rfl, ⟨character, rfl, admitted⟩, spells⟩
      exact .cons admitted (inductionHypothesis.mp spells)
    · rintro (_ | ⟨admitted, matched⟩)
      exact ⟨_, _, rfl, ⟨_, rfl, admitted⟩, inductionHypothesis.mpr matched⟩

theorem plain_ofList {nodes : List Node} :
    (Node.ofList nodes).plain = nodes.all Node.plain := by
  induction nodes with
  | nil => rfl
  | cons node nodes inductionHypothesis =>
    cases nodes with
    | nil => simp [Node.ofList]
    | cons other nodes =>
      rw [List.all_cons, ← inductionHypothesis]
      rfl

theorem groupNumbers_sets (sets : List CharSet) :
    (Node.ofList (sets.map .set)).groupNumbers = [] := by
  induction sets with
  | nil => rfl
  | cons members sets inductionHypothesis =>
    cases sets with
    | nil => rfl
    | cons other sets => exact inductionHypothesis

theorem contains_except {stops : List Char} {character : Char} :
    (CharSet.complement (.ofList stops)).contains character = true ↔ character ∉ stops := by
  simp

theorem groups_eq_of_groupless {node : Node} {source target : Progress} {read : List Char}
    (reads : node.Reads source read target) (groupless : node.groupNumbers = []) :
    target.groups = source.groups := by
  obtain ⟨found, groups, numbers⟩ := reads.groups
  have none : found = [] := by
    apply List.eq_nil_iff_forall_not_mem.mpr
    intro entry inside
    have impossible := numbers entry inside
    rw [groupless] at impossible
    cases impossible
  rw [groups, none, List.nil_append]

/-- A group is reached by reading its body, and it is the latest one found. -/
theorem exists_of_mem_outcomes_group {index : Nat} {body : Node} (isPlain : body.plain = true)
    (groupless : body.groupNumbers = []) {progress reached : Progress}
    (member : reached ∈ (Node.group index body).outcomes progress) :
    ∃ read, body.Spells read reached.cursor.rest ∧
      progress.cursor.rest = read ++ reached.cursor.rest ∧
      reached.cursor.offset = progress.cursor.offset + read.length ∧
      reached.groups = (index, ⟨progress.cursor.offset, progress.cursor.offset + read.length⟩) ::
        progress.groups := by
  obtain ⟨inner, inside, rfl⟩ := List.mem_map.mp member
  obtain ⟨read, reads⟩ := Node.reads_of_mem_outcomes isPlain inside
  refine ⟨read, reads.spells, reads.text, reads.offset, ?_⟩
  rw [← reads.offset, groups_eq_of_groupless reads groupless]

theorem lookup_append_of_apart {found groups : List (Nat × Span)} {number : Nat}
    (apart : ∀ entry ∈ found, entry.1 ≠ number) :
    (found ++ groups).lookup number = groups.lookup number := by
  have absent : found.lookup number = none := by
    rw [List.lookup_eq_none_iff]
    intro entry member
    simpa using (apart entry member).symm
  rw [List.lookup_append, absent, Option.none_or]

/-- What a group holds is what stands at its span. -/
theorem group_of_span {finding : Finding} {number start : Nat} (positive : number ≠ 0)
    {before inside after : List Char}
    (found : finding.found.groups.lookup number = some ⟨start, start + inside.length⟩)
    (shape : finding.text = before ++ (inside ++ after)) (place : start = before.length) :
    finding.group number = inside := by
  simp only [Finding.group, Match.group?, if_neg positive, found]
  rw [shape, place]
  simp [Span.text]

/-- Texts at the places of a marker spell its parts. -/
theorem Writes.spells {marker : Marker} {opening file line closing rest : List Char}
    (writes : marker.Writes opening file line)
    (closes : (Node.ofList marker.closing).Spells closing rest) :
    (Node.ofList marker.parts).Spells
      (opening ++ (file ++ ([marker.separator] ++ (line ++ closing)))) rest := by
  have named : (Node.group 1 (.except marker.stops)).Spells file
      ([marker.separator] ++ (line ++ closing) ++ rest) :=
    ⟨writes.file_ne_nil, fun character member => contains_except.mpr (writes.file character member)⟩
  have numbered : (Node.group 2 .number).Spells line (closing ++ rest) :=
    ⟨writes.line_ne_nil, writes.line⟩
  exact (spells_sets.mpr writes.opening).append
    (named.cons ((Node.spells_char.mpr rfl).cons (numbered.cons closes)))

/-- One text is written by a marker in one way, if the line number ends where its digits
do. -/
theorem Writes.unique {marker : Marker} (separated : marker.separator ∈ marker.stops)
    {opening file line opening' file' line' rest rest' : List Char} {next next' : Char}
    (writes : marker.Writes opening file line) (writes' : marker.Writes opening' file' line')
    (nondigit : Text.isDigit next = false) (nondigit' : Text.isDigit next' = false)
    (same : opening ++ (file ++ marker.separator :: (line ++ next :: rest)) =
      opening' ++ (file' ++ marker.separator :: (line' ++ next' :: rest'))) :
    file = file' ∧ line = line' ∧ next :: rest = next' :: rest' := by
  have lengths : opening.length = opening'.length := by
    rw [← writes.opening.length_eq, writes'.opening.length_eq]
  obtain ⟨-, behind⟩ := List.append_inj same lengths
  have outside : (CharSet.complement (.ofList marker.stops)).contains marker.separator = false := by
    simpa using separated
  obtain ⟨rfl, -, behind⟩ := Node.run_unique _
    (fun character member => contains_except.mpr (writes.file character member))
    (fun character member => contains_except.mpr (writes'.file character member))
    outside outside behind
  obtain ⟨rfl, rfl, rfl⟩ := Node.run_unique .digit writes.line writes'.line nondigit
    nondigit' behind
  exact ⟨rfl, rfl, rfl⟩

/-- A place reached by reading a marker: what was read, and which groups hold it. -/
structure Passes (marker : Marker) (source : Progress) (opening file line closing : List Char)
    (target : Progress) : Prop where
  writes : marker.Writes opening file line
  closes : (Node.ofList marker.closing).Spells closing target.cursor.rest
  text : source.cursor.rest =
    opening ++ (file ++ marker.separator :: (line ++ (closing ++ target.cursor.rest)))
  offset : target.cursor.offset = source.cursor.offset +
    (opening.length + (file.length + (1 + (line.length + closing.length))))
  fileGroup : target.groups.lookup 1 = some ⟨source.cursor.offset + opening.length,
    source.cursor.offset + opening.length + file.length⟩
  lineGroup : target.groups.lookup 2 =
    some ⟨source.cursor.offset + (opening.length + (file.length + 1)),
      source.cursor.offset + (opening.length + (file.length + 1)) + line.length⟩

theorem exists_passes_of_mem_outcomes {marker : Marker}
    (closingPlain : (Node.ofList marker.closing).plain = true)
    (numbers : ∀ number ∈ (Node.ofList marker.closing).groupNumbers, 2 < number)
    {source target : Progress} (member : target ∈ (Node.ofList marker.parts).outcomes source) :
    ∃ opening file line closing, marker.Passes source opening file line closing target := by
  rw [parts, Node.mem_outcomes_ofList_append] at member
  obtain ⟨behindOpening, opened, member⟩ := member
  obtain ⟨behindFile, filed, member⟩ := Node.mem_outcomes_ofList_cons.mp member
  obtain ⟨behindSeparator, separated, member⟩ := Node.mem_outcomes_ofList_cons.mp member
  obtain ⟨behindLine, lined, closed⟩ := Node.mem_outcomes_ofList_cons.mp member
  have openingPlain : (Node.ofList (marker.opening.map .set)).plain = true := by
    rw [plain_ofList, List.all_map]
    exact List.all_eq_true.mpr fun _ _ => rfl
  obtain ⟨opening, opens⟩ := Node.reads_of_mem_outcomes openingPlain opened
  obtain ⟨file, fileSpells, fileText, fileOffset, fileGroups⟩ :=
    exists_of_mem_outcomes_group rfl rfl filed
  obtain ⟨separator, separates⟩ := Node.reads_of_mem_outcomes rfl separated
  obtain ⟨line, lineSpells, lineText, lineOffset, lineGroups⟩ :=
    exists_of_mem_outcomes_group rfl rfl lined
  obtain ⟨closing, closes⟩ := Node.reads_of_mem_outcomes closingPlain closed
  obtain rfl := Node.spells_char.mp separates.spells
  obtain ⟨found, closingGroups, closingNumbers⟩ := closes.groups
  have fileStart := opens.offset
  have lineStart : behindSeparator.cursor.offset =
      source.cursor.offset + (opening.length + (file.length + 1)) := by
    rw [separates.offset, fileOffset, fileStart, List.length_singleton]
    omega
  have groups : target.groups = found ++
      ((2, ⟨behindSeparator.cursor.offset, behindSeparator.cursor.offset + line.length⟩) ::
        (1, ⟨behindOpening.cursor.offset, behindOpening.cursor.offset + file.length⟩) ::
          source.groups) := by
    rw [closingGroups, lineGroups, groups_eq_of_groupless separates rfl, fileGroups,
      groups_eq_of_groupless opens (groupNumbers_sets _)]
  have later : ∀ entry ∈ found, 2 < entry.1 := fun entry inside =>
    numbers _ (closingNumbers entry inside)
  refine ⟨opening, file, line, closing, ?_, closes.spells, ?_, ?_, ?_, ?_⟩
  · exact ⟨spells_sets.mp opens.spells, fileSpells.1, fun character inside =>
      contains_except.mp (fileSpells.2 character inside), lineSpells.1, lineSpells.2⟩
  · rw [opens.text, fileText, separates.text, lineText, closes.text]
    rfl
  · rw [closes.offset, lineOffset, lineStart]
    omega
  · rw [groups, lookup_append_of_apart fun entry inside => by have := later entry inside; omega,
      fileStart]
    rfl
  · rw [groups, lookup_append_of_apart fun entry inside => by have := later entry inside; omega,
      lineStart]
    rfl

section Finding

variable {marker : Marker} {rule : Rule} (form : rule.pattern.node = .ofList marker.parts)
  (closingPlain : (Node.ofList marker.closing).plain = true)
include form closingPlain

theorem plain_of_form : rule.pattern.node.plain = true := by
  rw [plain_ofList] at closingPlain
  rw [form, plain_ofList, parts, List.all_append, List.all_cons, List.all_cons, List.all_cons,
    closingPlain]
  simp [Node.plain, Node.except, Node.number, Node.char]

/-- What is found for a pattern in the form of a marker: the file name is the first group
and the line number the second one. -/
theorem find?_writes (numbers : ∀ number ∈ (Node.ofList marker.closing).groupNumbers, 2 < number)
    {text : List Char} {finding : Finding} (success : rule.find? text = some finding) :
    ∃ skipped opening file line closing rest,
      text = skipped ++ (opening ++ (file ++ marker.separator :: (line ++ (closing ++ rest)))) ∧
      marker.Writes opening file line ∧ (Node.ofList marker.closing).Spells closing rest ∧
      finding.group 1 = file ∧ finding.group 2 = line ∧
      finding.found.span = ⟨skipped.length, skipped.length +
        (opening.length + (file.length + (1 + (line.length + closing.length))))⟩ ∧
      ∀ skipped' read' rest', text = skipped' ++ (read' ++ rest') →
        rule.pattern.node.Spells read' rest' → skipped.length ≤ skipped'.length := by
  obtain ⟨found, inside, rfl⟩ := Option.map_eq_some_iff.mp success
  obtain ⟨skipped, remaining, _, reached, rfl, -, member, rfl, first⟩ :=
    Node.findFrom_spells (plain_of_form form closingPlain) inside
  rw [Node.outcomesAt, form] at member
  obtain ⟨opening, file, line, closing, passes⟩ :=
    exists_passes_of_mem_outcomes closingPlain numbers member
  have whole : remaining = opening ++ (file ++ marker.separator ::
      (line ++ (closing ++ reached.cursor.rest))) := passes.text
  have offset := passes.offset
  have fileGroup := passes.fileGroup
  have lineGroup := passes.lineGroup
  simp only [Cursor.past, Nat.zero_add] at offset fileGroup lineGroup
  refine ⟨skipped, opening, file, line, closing, reached.cursor.rest, by rw [whole],
    passes.writes, passes.closes, ?_, ?_, ?_, first⟩
  · have split : skipped ++ remaining = (skipped ++ opening) ++ (file ++ marker.separator ::
        (line ++ (closing ++ reached.cursor.rest))) := by
      rw [whole, List.append_assoc]
    exact group_of_span Nat.one_ne_zero fileGroup split List.length_append.symm
  · have split : skipped ++ remaining = (skipped ++ (opening ++ (file ++ [marker.separator]))) ++
        (line ++ (closing ++ reached.cursor.rest)) := by
      rw [whole]
      simp only [List.append_assoc, List.cons_append, List.nil_append]
    refine group_of_span (Nat.succ_ne_zero 1) lineGroup split ?_
    simp only [List.length_append, List.length_singleton]
  · rw [offset, Nat.zero_add]

end Finding

/-- The last part, where it is the tail, is left in place. -/
theorem consumed_of_tail {rule : Rule} (parts : List Node) (members : CharSet)
    (form : rule.pattern.node = .ofList (parts ++ [.group 3 (.set members)]))
    (isPlain : rule.pattern.node.plain = true)
    (named : rule.pattern.groupNumber? Finding.tailName = some 3) {text : List Char}
    {finding : Finding} (success : rule.find? text = some finding) :
    finding.consumed + 1 = finding.found.span.stop := by
  obtain ⟨found, inside, rfl⟩ := Option.map_eq_some_iff.mp success
  obtain ⟨skipped, remaining, _, reached, shape, -, member, rfl, -⟩ :=
    Node.findFrom_spells isPlain inside
  rw [Node.outcomesAt, form, Node.mem_outcomes_ofList_append] at member
  obtain ⟨middle, -, member⟩ := member
  obtain ⟨read, ⟨character, rfl, -⟩, -, offset, groups⟩ :=
    exists_of_mem_outcomes_group rfl rfl member
  have group : reached.groups.lookup 3 =
      some ⟨middle.cursor.offset, middle.cursor.offset + 1⟩ := by
    rw [groups]
    rfl
  simp only [Finding.consumed, named, Option.bind_some, Match.group?,
    if_neg (Nat.succ_ne_zero 2), group, offset, List.length_singleton]

end Marker

namespace Debugger

open Pattern.Node

/-- A line break, as the first character of a marker. -/
def breakSet : CharSet := .ofList ['\r', '\n']

/-- How a debugger prints a location. -/
def marker : Debugger → Marker
  | .gdb => ⟨[breakSet, .single '\x1a', .single '\x1a'], [':', '\r', '\n'], ':',
      [char ':', number], 0⟩
  | .lldb => ⟨[.single ' ', .single 'a', .single 't', .single ' '], [':', '\r', '\n'], ':',
      [.group 3 (.set (.complement .digit))], 1⟩
  | .pdb => ⟨[breakSet, .single '>', .single ' '], ['(', '\r', '\n'], '(',
      [char ')', .optional true (.except ['(', '\r', '\n']), char '(', char ')'], 0⟩
  | .bashdb => ⟨[breakSet, .single '('], [':', '\r', '\n'], ':',
      [char ')', char ':', .group 3 lineBreak], 1⟩

/-- The pattern of a debugger's locations. -/
def location : Debugger → Pattern
  | .gdb => Gdb.location
  | .lldb => Lldb.location
  | .pdb => Pdb.location
  | .bashdb => Bashdb.location

/-- The patterns of a debugger's notices and prompts, and the reactions to them. -/
def notices : Debugger → List (Pattern × Reaction)
  | .gdb => [(Gdb.continuing, .resume), (Gdb.starting, .resume), (Gdb.exited, .terminate),
      (Gdb.breakpoint, .query), (Gdb.prompt, .query)]
  | .lldb => [(Lldb.resuming, .resume), (Lldb.launched, .resume), (Lldb.stopped, .pause),
      (Lldb.exited, .terminate), (Lldb.prompt, .query)]
  | .pdb => [(Pdb.finished, .terminate), (Pdb.prompt, .query)]
  | .bashdb => [(Bashdb.terminated, .terminate), (Bashdb.prompt, .query)]

/-- A rule of a debugger is that of its locations, or that of a notice. -/
theorem mem_rules {debugger : Debugger} {policy : Location.Policy} {state : RunState} {rule : Rule}
    (member : rule ∈ (debugger.rulebook policy).rules state) :
    rule = ⟨debugger.location, .jump policy state⟩ ∨
      ∃ notice ∈ debugger.notices, rule = ⟨notice.1, fun _ => notice.2⟩ := by
  have inspected : ∀ entry ∈ (debugger.rulebook policy).entries,
      entry.2 = ⟨debugger.location, .jump policy entry.1⟩ ∨
        ∃ notice ∈ debugger.notices, entry.2 = ⟨notice.1, fun _ => notice.2⟩ := by
    cases debugger <;>
      simp [rulebook, Gdb.rulebook, Lldb.rulebook, Pdb.rulebook, Bashdb.rulebook, notices, location]
  obtain ⟨entry, inside, same⟩ := List.mem_filterMap.mp member
  split at same
  · next here =>
    obtain rfl := Option.some.inj same
    rw [← here]
    exact inspected entry inside
  · cases same

/-- A location that was found is reported, or it is none and changes nothing. -/
theorem jump_cases (policy : Location.Policy) (state : RunState) (finding : Finding) :
    (∃ location, finding.location policy = .ok location ∧
        Reaction.jump policy state finding = ⟨.paused, some (.jumpTo location)⟩) ∨
      ∃ fault, finding.location policy = .error fault ∧
        Reaction.jump policy state finding = ⟨state, none⟩ := by
  cases resolved : finding.location policy with
  | ok location => exact .inl ⟨location, rfl, by rw [Reaction.jump, resolved]⟩
  | error fault => exact .inr ⟨fault, rfl, by rw [Reaction.jump, resolved]⟩

theorem location_form (debugger : Debugger) :
    debugger.location.node = .ofList debugger.marker.parts := by
  cases debugger <;> rfl

theorem closing_plain (debugger : Debugger) :
    (ofList debugger.marker.closing).plain = true := by
  cases debugger <;> rfl

theorem closing_numbers (debugger : Debugger) :
    ∀ number ∈ (ofList debugger.marker.closing).groupNumbers, 2 < number := by
  cases debugger <;> decide

theorem location_plain (debugger : Debugger) : debugger.location.node.plain = true := by
  cases debugger <;> rfl

/-- Behind a line number stands a character that is no digit. -/
theorem closing_starts {debugger : Debugger} {closing rest : List Char}
    (spells : (ofList debugger.marker.closing).Spells closing rest) :
    ∃ next more, closing = next :: more ∧ Text.isDigit next = false := by
  cases debugger
  all_goals
    obtain ⟨next, more, rfl, admitted⟩ := spells.head_mem rfl
    refine ⟨next, more, rfl, ?_⟩
  · obtain rfl : next = ':' := by simpa using admitted
    decide
  · simpa [CharSet.contains] using admitted
  · obtain rfl : next = ')' := by simpa using admitted
    decide
  · obtain rfl : next = ')' := by simpa using admitted
    decide

/-- A location is taken away but for the characters of its closing that are kept. -/
theorem location_consumed {debugger : Debugger} {react : Finding → Reaction} {text : List Char}
    {finding : Finding} (success : (⟨debugger.location, react⟩ : Rule).find? text = some finding) :
    finding.consumed + debugger.marker.kept = finding.found.span.stop := by
  have pattern := (Rule.find?_spells debugger.location_plain success).2.1
  cases debugger
  · exact Finding.consumed_eq_stop (congrArg Pattern.names pattern)
  · exact Marker.consumed_of_tail (characters " at " ++
      [.group 1 (.except [':', '\r', '\n']), char ':', .group 2 number])
      (.complement .digit) rfl rfl rfl success
  · exact Finding.consumed_eq_stop (congrArg Pattern.names pattern)
  · exact Marker.consumed_of_tail ([lineBreak, char '(', .group 1 (.except [':', '\r', '\n']),
      char ':', .group 2 number] ++ characters "):") breakSet rfl rfl rfl success

end Debugger

end DebugConsole
