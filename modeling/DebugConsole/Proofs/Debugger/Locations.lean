import DebugConsole.Proofs.Debugger.Notices

/-!
# Locations are understood from any history

`Debugger.Prints` lists how the debuggers print a location. Each is expected by the
rulebook in every state that looks for locations. What has to be shown for this is that
no notice or prompt is spelled in it, whatever the file name is, and that the location is
found with this file name and this line and no other, however much of it has arrived.
-/

namespace DebugConsole

open Pattern

/-- A text in front of the first of two stops, where nothing but the second one follows. -/
theorem eq_of_append_stop_eq {front line front' behind : List Char} {stop : Char}
    (frontFree : stop ∉ front) (lineFree : stop ∉ line) (some : behind ≠ [])
    (same : front ++ stop :: (line ++ [stop]) = front' ++ stop :: behind) :
    front = front' ∧ line ++ [stop] = behind := by
  rcases List.append_eq_append_iff.mp same with ⟨more, rfl, rests⟩ | ⟨more, rfl, rests⟩
  · cases more with
    | nil => exact ⟨by simp, by simpa using rests⟩
    | cons first more =>
      have tails : line ++ [stop] = more ++ stop :: behind := (List.cons.inj rests).2
      rcases List.append_eq_append_iff.mp tails with ⟨other, -, ends⟩ | ⟨other, rfl, ends⟩
      · have total := congrArg List.length ends
        have positive := List.length_pos_iff.mpr some
        simp only [List.length_cons, List.length_append, List.length_nil] at total
        omega
      · cases other with
        | nil => exact absurd (by simpa using ends) some
        | cons second other =>
          rw [(List.cons.inj ends).1] at lineFree
          simp at lineFree
  · cases more with
    | nil => exact ⟨by simp, by simpa using rests.symm⟩
    | cons first more =>
      rw [(List.cons.inj rests).1] at frontFree
      simp at frontFree

/-- A text that starts with a character that a front does not have is found behind it. -/
theorem infix_of_append {text front rest : List Char} {first : Char}
    (starts : text.head? = some first) (free : first ∉ front) (inside : text <:+: front ++ rest) :
    text <:+: rest := by
  induction front with
  | nil => exact inside
  | cons other front inductionHypothesis =>
    rw [List.mem_cons, not_or] at free
    rcases List.infix_cons_iff.mp inside with here | later
    · obtain ⟨more, rfl⟩ := List.head?_eq_some_iff.mp starts
      exact absurd (List.cons_prefix_cons.mp here).1 free.1
    · exact inductionHypothesis free.2 later

/-- A text without a stop is found on one side of it. -/
theorem infix_of_append_stop {text middle back : List Char} {stop : Char} (some : text ≠ [])
    (unstopped : stop ∉ text) (inside : text <:+: middle ++ stop :: back) :
    text <:+: middle ∨ text <:+: back := by
  induction middle with
  | nil =>
    rcases List.infix_cons_iff.mp inside with here | later
    · obtain ⟨first, more, rfl⟩ := List.exists_cons_of_ne_nil some
      obtain ⟨rfl, -⟩ := List.cons_prefix_cons.mp here
      simp at unstopped
    · exact .inr later
  | cons first middle inductionHypothesis =>
    rcases List.infix_cons_iff.mp inside with ⟨after, shape⟩ | later
    · left
      rcases List.append_eq_append_iff.mp (show text ++ after = (first :: middle) ++ stop :: back
        from shape) with ⟨more, parts, -⟩ | ⟨more, rfl, rests⟩
      · exact ⟨[], more, by simp [parts]⟩
      · cases more with
        | nil => exact ⟨[], [], by simp⟩
        | cons other more =>
          obtain ⟨rfl, -⟩ := List.cons.inj rests
          simp at unstopped
    · exact (inductionHypothesis later).imp_left List.infix_cons

namespace Debugger

open Pattern.Node

variable {debugger : Debugger} {policy : Location.Policy} {file line text closing : List Char}

/-- How a debugger prints a location behind a line feed. The file name keeps clear of what
delimits it; lldb's, which stands in the middle of a line, must not look like a notice. -/
inductive Prints : Debugger → (file line text : List Char) → Prop where
  | gdb {file line column : List Char} (undelimited : ':' ∉ file) (unmarked : '\x1a' ∉ file)
      (digits : Digits column) :
      Prints .gdb file line ("\x1a\x1a".toList ++ file ++ ":".toList ++ line ++ ":".toList ++ column)
  | lldb {file line : List Char} (undelimited : ':' ∉ file)
      (unprompted : ¬ "(lldb)".toList <:+: file) (unnoticed : ¬ "Process ".toList <:+: file) :
      Prints .lldb file line (" at ".toList ++ file ++ ":".toList ++ line ++ ":".toList)
  | pdb {file line name : List Char} (undelimited : '(' ∉ file)
      (plain : ∀ character ∈ name, character ∉ ['(', '\r', '\n']) :
      Prints .pdb file line
        ("> ".toList ++ file ++ "(".toList ++ line ++ ")".toList ++ name ++ "()".toList)
  | bashdb {file line : List Char} (undelimited : ':' ∉ file) :
      Prints .bashdb file line ("(".toList ++ file ++ ":".toList ++ line ++ "):\n".toList)

/-- What stands behind the line number of a printed location. -/
inductive Closes : Debugger → List Char → Prop where
  | gdb {column : List Char} (digits : Digits column) : Closes .gdb (':' :: column)
  | lldb : Closes .lldb [':']
  | pdb {name : List Char} (plain : ∀ character ∈ name, character ∉ ['(', '\r', '\n']) :
      Closes .pdb (')' :: (name ++ ['(', ')']))
  | bashdb : Closes .bashdb [')', ':', '\n']

/-- What stands in front of a printed location and is no part of it. -/
def lead : Debugger → List Char
  | .lldb => ['\n']
  | .gdb | .pdb | .bashdb => []

/-- What a printed location opens with. -/
def opening : Debugger → List Char
  | .gdb => ['\n', '\x1a', '\x1a']
  | .lldb => [' ', 'a', 't', ' ']
  | .pdb => ['\n', '>', ' ']
  | .bashdb => ['\n', '(']

theorem separator_mem (debugger : Debugger) : debugger.marker.separator ∈ debugger.marker.stops := by
  cases debugger <;> decide

theorem Prints.shape (prints : debugger.Prints file line text) :
    ∃ closing, debugger.Closes closing ∧ '\n' :: text = debugger.lead ++ (debugger.opening ++
      (file ++ debugger.marker.separator :: (line ++ closing))) := by
  cases prints with
  | gdb _ _ digits => exact ⟨_, .gdb digits, by simp [lead, opening, marker]⟩
  | lldb _ _ _ => exact ⟨_, .lldb, by simp [lead, opening, marker]⟩
  | pdb _ plain => exact ⟨_, .pdb plain, by simp [lead, opening, marker]⟩
  | bashdb _ => exact ⟨_, .bashdb, by simp [lead, opening, marker]⟩

/-- Behind the line number stands a character that is no digit. -/
theorem Closes.starts (closes : debugger.Closes closing) :
    ∃ next more, closing = next :: more ∧ Text.isDigit next = false := by
  cases closes
  all_goals exact ⟨_, _, rfl, by decide⟩

theorem Closes.spells (closes : debugger.Closes closing) :
    (ofList debugger.marker.closing).Spells closing [] := by
  cases closes with
  | gdb digits => exact Spells.cons_char digits
  | lldb => exact ⟨':', rfl, by decide⟩
  | @pdb name plain =>
    have inner : (Node.optional true (.except ['(', '\r', '\n'])).Spells name
        (['('] ++ [')'] ++ []) := by
      by_cases none : name = []
      · exact .inl none
      · exact .inr ⟨none, fun character member => Marker.contains_except.mpr (plain character member)⟩
    exact Spells.cons_char (inner.cons (Spells.cons_char (spells_char.mpr rfl)))
  | bashdb =>
    exact Spells.cons_char (Spells.cons_char ⟨'\n', rfl, rfl⟩)

/-- A printed location is a marker. -/
theorem Prints.writes (prints : debugger.Prints file line text) (named : file ≠ [])
    (unbroken : '\r' ∉ file ∧ '\n' ∉ file) (digits : Digits line) :
    debugger.marker.Writes debugger.opening file line := by
  have opens : List.Forall₂ (fun members character => members.contains character = true)
      debugger.marker.opening debugger.opening := by
    cases debugger <;> repeat' constructor
  refine ⟨opens, named, fun character member => ?_, digits.1, digits.2⟩
  have apart : character ≠ debugger.marker.separator ∧ character ≠ '\r' ∧ character ≠ '\n' := by
    refine ⟨?_, ?_, ?_⟩
    all_goals rintro rfl
    · cases prints <;> contradiction
    · exact unbroken.1 member
    · exact unbroken.2 member
  cases debugger <;> simpa [marker] using apart

/-! ## What is left of a printed location -/

theorem inert_of_short {text : List Char} (short : text.length ≤ 1) (state : RunState) :
    (debugger.rulebook policy).Inert state text :=
  fun _ part => quiet_of_short (Nat.le_trans part.length_le short) state

/-- gdb prints nothing that starts with a digit. -/
theorem inert_of_digits {text : List Char}
    (digits : ∀ character ∈ text, Text.isDigit character = true) (state : RunState) :
    (Debugger.gdb.rulebook policy).Inert state text := by
  have inspected : ∀ pattern ∈ Debugger.gdb.patterns,
      (pattern.node.leads.head?.bind CharSet.listed).any
        (fun starts => starts.all fun character => !Text.isDigit character) = true := by
    decide
  rintro arrived ⟨more, rfl⟩
  apply quiet_of_unspelled
  intro rule member skipped read rest shape spells
  obtain ⟨starts, bound, apart⟩ :=
    (Option.any_eq_true _ _).mp (inspected _ (pattern_mem member))
  obtain ⟨members, head, lists⟩ := Option.bind_eq_some_iff.mp bound
  obtain ⟨character, more', rfl, admitted⟩ := spells.head_mem head
  have refused := List.all_eq_true.mp apart character (CharSet.mem_of_listed lists admitted)
  rw [digits character (by simp [shape])] at refused
  cases refused

/-- Once a location has been taken away, nothing that is left of it can fire. -/
theorem Closes.inert (closes : debugger.Closes closing) {taken left rest behind : List Char}
    (spells : (ofList debugger.marker.closing).Spells (taken ++ left) rest)
    (shape : closing = taken ++ left ++ behind) (size : left.length = debugger.marker.kept)
    (state : RunState) : (debugger.rulebook policy).Inert state (left ++ behind) := by
  cases closes with
  | @gdb column digits =>
    obtain rfl : left = [] := List.length_eq_zero_iff.mp size
    rw [List.append_nil] at spells shape
    obtain ⟨first, more, rfl, -⟩ := spells.head_mem rfl
    refine inert_of_digits (fun character member => digits.2 character ?_) state
    rw [(List.cons.inj shape).2]
    exact List.mem_append_right _ member
  | lldb =>
    refine inert_of_short ?_ state
    have fixed := spells.length_of_fixed rfl
    have total := congrArg List.length shape
    simp only [List.length_append] at fixed total ⊢
    have size : left.length = 1 := size
    have fixed : taken.length + left.length = 1 := fixed
    have total : 1 = taken.length + left.length + behind.length := total
    omega
  | @pdb name plain =>
    obtain rfl : left = [] := List.length_eq_zero_iff.mp size
    rw [List.append_nil] at spells shape
    obtain ⟨_, second, rfl, opens, spells'⟩ := spells_ofList_cons.mp spells
    obtain rfl := spells_char.mp opens
    obtain ⟨name', third, rfl, names, brackets⟩ := spells_ofList_cons.mp spells'
    obtain ⟨_, fourth, rfl, bracket, last⟩ := spells_ofList_cons.mp brackets
    obtain rfl := spells_char.mp bracket
    obtain rfl := spells_char.mp last
    have named : ∀ character ∈ name', (CharSet.complement
        (.ofList ['(', '\r', '\n'])).contains character = true := by
      rcases names with rfl | ⟨-, names⟩
      · simp
      · exact names
    have tails : name ++ '(' :: [')'] = name' ++ '(' :: (')' :: behind) := by
      simpa using shape
    obtain ⟨-, -, ends⟩ := run_unique _
      (fun character member => Marker.contains_except.mpr (plain character member)) named
      (by decide) (by decide) tails
    obtain rfl : behind = [] := by simpa using ends
    exact inert_of_short (by simp) state
  | bashdb =>
    refine inert_of_short ?_ state
    have fixed := spells.length_of_fixed rfl
    have total := congrArg List.length shape
    simp only [List.length_append] at fixed total ⊢
    have size : left.length = 1 := size
    have fixed : taken.length + left.length = 3 := fixed
    have total : 3 = taken.length + left.length + behind.length := total
    omega

/-! ## Nothing else is spelled in a printed location -/

theorem Digits.apart {text : List Char} (digits : Digits text) (character : Char)
    (nondigit : Text.isDigit character = false) : character ∉ text := by
  intro member
  rw [digits.2 character member] at nondigit
  cases nondigit

/-- A printed location has no line break but the one that may end it. -/
theorem Prints.unbroken (prints : debugger.Prints file line text)
    (unbroken : '\r' ∉ file ∧ '\n' ∉ file) (digits : Digits line) :
    '\r' ∉ text.dropLast ∧ '\n' ∉ text.dropLast := by
  have apart : ∀ {digits}, Digits digits → '\r' ∉ digits ∧ '\n' ∉ digits := fun digits =>
    ⟨digits.apart _ (by decide), digits.apart _ (by decide)⟩
  have whole : ∀ {text : List Char}, '\r' ∉ text ∧ '\n' ∉ text →
      '\r' ∉ text.dropLast ∧ '\n' ∉ text.dropLast := fun free =>
    ⟨fun member => free.1 (List.dropLast_subset _ member),
      fun member => free.2 (List.dropLast_subset _ member)⟩
  cases prints with
  | gdb _ _ column => exact whole (by simp [unbroken, apart digits, apart column])
  | lldb _ _ _ => exact whole (by simp [unbroken, apart digits])
  | @pdb _ _ name _ plain =>
    have named : '\r' ∉ name ∧ '\n' ∉ name := by
      constructor <;> exact fun member => absurd (plain _ member) (by simp)
    exact whole (by simp [unbroken, apart digits, named])
  | bashdb _ =>
    have shape : "(".toList ++ file ++ ":".toList ++ line ++ "):\n".toList =
        "(".toList ++ file ++ ":".toList ++ line ++ "):".toList ++ ['\n'] := by simp
    rw [shape, List.dropLast_concat]
    simp [unbroken, apart digits]

/-- What starts with a line break, and is longer than that, starts with the line feed in
front of a printed location. -/
theorem eq_nil_of_unbroken {skipped behind : List Char} {first second : Char}
    (unbroken : '\r' ∉ text.dropLast ∧ '\n' ∉ text.dropLast)
    (breaks : breakSet.contains first = true)
    (shape : '\n' :: text = skipped ++ first :: second :: behind) : skipped = [] := by
  cases skipped with
  | nil => rfl
  | cons other skipped =>
    exfalso
    have inside : first ∈ text.dropLast := by
      have tail : text = skipped ++ [first] ++ second :: behind := by
        simpa using (List.cons.inj shape).2
      rw [tail, List.dropLast_append_of_ne_nil (List.cons_ne_nil _ _)]
      simp
    have either : first = '\r' ∨ first = '\n' := by simpa [breakSet] using breaks
    rcases either with rfl | rfl
    · exact unbroken.1 inside
    · exact unbroken.2 inside

/-- Whether a node starts with a line break and then with something other than a given
character. -/
def clashes (character : Char) (node : Node) : Bool :=
  match node.leads with
  | first :: second :: _ => first == breakSet && !second.contains character
  | _ => false

theorem unspelled_of_clashes {node : Node} {character : Char} {behind skipped read rest : List Char}
    (apart : clashes character node = true)
    (unbroken : '\r' ∉ (character :: text).dropLast ∧ '\n' ∉ (character :: text).dropLast)
    (shape : '\n' :: character :: text = skipped ++ (read ++ behind)) : ¬ node.Spells read rest := by
  intro spells
  obtain ⟨front, more, rfl, matched, -⟩ := spells.leads
  unfold clashes at apart
  split at apart
  swap
  · cases apart
  next first second others leads =>
  obtain ⟨breaks, refused⟩ := (Bool.and_eq_true _ _).mp apart
  obtain rfl : first = breakSet := beq_iff_eq.mp breaks
  rw [leads] at matched
  obtain ⟨one, _, broken, matched', rfl⟩ := List.forall₂_cons_left_iff.mp matched
  obtain ⟨two, rest', admitted, -, rfl⟩ := List.forall₂_cons_left_iff.mp matched'
  simp only [List.cons_append] at shape
  have start := eq_nil_of_unbroken unbroken broken shape
  rw [start, List.nil_append] at shape
  obtain ⟨-, shape⟩ := List.cons.inj shape
  obtain ⟨rfl, -⟩ := List.cons.inj shape
  rw [admitted] at refused
  cases refused

/-- gdb's prompt has one control character more than a printed location. -/
theorem prompt_unspelled {column : List Char} (digits : Digits line) (columnDigits : Digits column)
    (unmarked : '\x1a' ∉ file) {skipped read rest behind : List Char}
    (shape : '\n' :: ("\x1a\x1a".toList ++ file ++ ":".toList ++ line ++ ":".toList ++ column) =
      skipped ++ (read ++ behind)) : ¬ Gdb.prompt.node.Spells read rest := by
  intro spells
  obtain ⟨three, _, rfl, marks, -⟩ := spells_ofList_append.mp spells
  obtain rfl := spells_characters.mp marks
  have total := congrArg (List.count '\x1a') shape
  have fileFree := List.count_eq_zero.mpr unmarked
  have lineFree := List.count_eq_zero.mpr (digits.apart '\x1a' (by decide))
  have columnFree :=
    List.count_eq_zero.mpr (columnDigits.apart '\x1a' (by decide))
  simp [List.count_append, fileFree, lineFree, columnFree] at total
  omega

/-- A text that is in no part of a location that lldb prints is not in all of it. -/
theorem not_infix_frame (digits : Digits line) {part : List Char} {first : Char}
    (starts : part.head? = some first) (frontFree : first ∉ "\n at ".toList)
    (undelimited : ':' ∉ part) (nondigit : Text.isDigit first = false)
    (outside : ¬ part <:+: file) :
    ¬ part <:+: '\n' :: (" at ".toList ++ file ++ ":".toList ++ line ++ ":".toList) := by
  intro inside
  have whole : part <:+: "\n at ".toList ++ (file ++ ':' :: (line ++ [':'])) := by
    simpa using inside
  have head := List.mem_of_mem_head? starts
  rcases infix_of_append_stop (List.ne_nil_of_mem head) undelimited
    (infix_of_append starts frontFree whole) with within | beyond
  · exact outside within
  · rcases List.mem_append.mp (beyond.subset head) with member | member
    · exact digits.apart _ nondigit member
    · exact undelimited (List.mem_singleton.mp member ▸ head)

/-- Whatever lldb says contains a text that the file name must not contain. -/
theorem exists_telltale {notice : Pattern × Reaction} (noticed : notice ∈ Debugger.lldb.notices)
    {read rest : List Char} (spells : notice.1.node.Spells read rest) :
    "Process ".toList <:+: read ∨ "(lldb)".toList <:+: read := by
  have process : ∀ ending, (ofList (Lldb.processNotice ending)).Spells read rest →
      "Process ".toList <:+: read := by
    intro ending spells
    obtain ⟨_, after, rfl, spells, -⟩ := spells_ofList_append.mp spells
    obtain ⟨_, middle, rfl, spells, -⟩ := spells_ofList_append.mp spells
    obtain rfl := spells_characters.mp spells
    exact ⟨[], middle ++ after, by simp⟩
  simp only [notices, List.mem_cons, List.not_mem_nil, or_false] at noticed
  rcases noticed with rfl | rfl | rfl | rfl | rfl
  · exact .inl (process " resuming" spells)
  · exact .inl (process " launched" spells)
  · exact .inl (process " stopped" spells)
  · exact .inl (process " exited with status" spells)
  · obtain ⟨_, after, rfl, spells, -⟩ := spells_ofList_append.mp spells
    obtain ⟨blank, _, rfl, -, spells⟩ := spells_ofList_cons.mp spells
    obtain rfl := spells_characters.mp spells
    exact .inr ⟨blank, " (lldb) ".toList ++ after, by simp⟩

/-- No notice and no prompt is spelled in a printed location. -/
theorem Prints.unspelled (prints : debugger.Prints file line text)
    (unbroken : '\r' ∉ file ∧ '\n' ∉ file) (digits : Digits line)
    {notice : Pattern × Reaction} (noticed : notice ∈ debugger.notices)
    {skipped read rest behind : List Char} (shape : '\n' :: text = skipped ++ (read ++ behind)) :
    ¬ notice.1.node.Spells read rest := by
  have breaks := prints.unbroken unbroken digits
  cases prints with
  | gdb undelimited unmarked columnDigits =>
    have inspected : ∀ notice ∈ Debugger.gdb.notices,
        notice.1 = Gdb.prompt ∨ clashes '\x1a' notice.1.node = true := by decide
    rcases inspected notice noticed with prompt | apart
    · rw [prompt]
      exact prompt_unspelled digits columnDigits unmarked shape
    · exact unspelled_of_clashes apart breaks shape
  | lldb undelimited unprompted unnoticed =>
    intro spells
    have within : read <:+: '\n' :: (" at ".toList ++ file ++ ":".toList ++ line ++ ":".toList) := by
      rw [shape]
      exact ⟨skipped, behind, by rw [List.append_assoc]⟩
    rcases exists_telltale noticed spells with inside | inside
    · exact not_infix_frame digits rfl (by decide) (by decide) (by decide) unnoticed
        (inside.trans within)
    · exact not_infix_frame digits rfl (by decide) (by decide) (by decide) unprompted
        (inside.trans within)
  | pdb _ _ =>
    have inspected : ∀ notice ∈ Debugger.pdb.notices, clashes '>' notice.1.node = true := by
      decide
    exact unspelled_of_clashes (inspected notice noticed) breaks shape
  | bashdb _ =>
    have inspected : ∀ notice ∈ Debugger.bashdb.notices, clashes '(' notice.1.node = true := by
      decide
    exact unspelled_of_clashes (inspected notice noticed) breaks shape

/-! ## Where a printed location is found -/

/-- Of a location that lldb prints nothing is found before all of it has arrived, and then
it is found where it starts, even if the file name looks like a location, too. -/
theorem lead_of_lldb (prints : Debugger.lldb.Prints file line text)
    (writes : Debugger.lldb.marker.Writes Debugger.lldb.opening file line)
    {ahead part between opening' file' line' closing' rest due : List Char}
    (writes' : Debugger.lldb.marker.Writes opening' file' line')
    (spells' : (ofList Debugger.lldb.marker.closing).Spells closing' rest)
    (stream : part ++ due = '\n' :: text)
    (whole : '\n' :: text =
      between ++ (opening' ++ (file' ++ ':' :: (line' ++ (closing' ++ (rest ++ due))))))
    (first : ∀ skipped read behind, ahead ++ part = skipped ++ (read ++ behind) →
      Lldb.location.node.Spells read behind → (ahead ++ between).length ≤ skipped.length) :
    between = ['\n'] := by
  obtain ⟨next, more, rfl, nondigit⟩ := closing_starts spells'
  obtain ⟨closing, closes, shape⟩ := prints.shape
  have due : due = [] := by
    cases closes
    have undelimited : ':' ∉ file := by
      cases prints
      assumption
    have frontFree : ':' ∉ '\n' :: (Debugger.lldb.opening ++ file) := by
      simpa [opening] using undelimited
    have behind : line' ++ (next :: more ++ (rest ++ due)) ≠ [] := by simp
    have parts : ('\n' :: (Debugger.lldb.opening ++ file)) ++ ':' :: (line ++ [':']) =
        (between ++ (opening' ++ file')) ++ ':' :: (line' ++ (next :: more ++ (rest ++ due))) := by
      rw [shape] at whole
      simpa [lead, marker] using whole
    obtain ⟨-, tails⟩ := eq_of_append_stop_eq frontFree
      (Digits.apart ⟨writes.line_ne_nil, writes.line⟩ _ (by decide)) behind parts
    obtain ⟨-, -, ends⟩ := run_unique .digit writes.line writes'.line
      (show CharSet.digit.contains ':' = false by decide) nondigit tails
    have none : more ++ (rest ++ due) = [] := ends.symm
    simp only [List.append_eq_nil_iff] at none
    exact none.2.2
  subst due
  rw [List.append_nil] at stream
  have spelled := writes.spells closes.spells
  rw [← location_form] at spelled
  have early := first (ahead ++ ['\n']) _ [] (by
    rw [stream, shape]
    simp [lead, marker]) spelled
  simp only [List.length_append, List.length_singleton] at early
  cases between with
  | nil =>
    obtain ⟨space, _, admitted, -, rfl⟩ := List.forall₂_cons_left_iff.mp writes'.opening
    have same : '\n' = space := (List.cons.inj whole).1
    rw [← same] at admitted
    cases admitted
  | cons character between =>
    obtain rfl : between = [] := List.length_eq_zero_iff.mp (by
      rw [List.length_cons] at early
      omega)
    rw [← (List.cons.inj whole).1]

/-- A printed location is found where it starts. -/
theorem Prints.lead_eq (prints : debugger.Prints file line text) (named : file ≠ [])
    (unbroken : '\r' ∉ file ∧ '\n' ∉ file) (digits : Digits line)
    {ahead part between opening' file' line' closing' rest due : List Char}
    (writes' : debugger.marker.Writes opening' file' line')
    (spells' : (ofList debugger.marker.closing).Spells closing' rest)
    (stream : part ++ due = '\n' :: text)
    (whole : '\n' :: text = between ++ (opening' ++
      (file' ++ debugger.marker.separator :: (line' ++ (closing' ++ (rest ++ due))))))
    (first : ∀ skipped read behind, ahead ++ part = skipped ++ (read ++ behind) →
      debugger.location.node.Spells read behind → (ahead ++ between).length ≤ skipped.length) :
    between = debugger.lead := by
  have breaks := prints.unbroken unbroken digits
  have broken : ∀ {others : List CharSet} {second : CharSet},
      debugger.marker.opening = breakSet :: second :: others → between = [] := by
    intro others second opens
    have matched := writes'.opening
    rw [opens] at matched
    obtain ⟨one, _, admitted, matched', rfl⟩ := List.forall₂_cons_left_iff.mp matched
    obtain ⟨two, _, -, -, rfl⟩ := List.forall₂_cons_left_iff.mp matched'
    exact eq_nil_of_unbroken breaks admitted whole
  cases debugger with
  | gdb => exact broken rfl
  | lldb =>
    exact lead_of_lldb prints (prints.writes named unbroken digits) writes' spells' stream whole
      first
  | pdb => exact broken rfl
  | bashdb => exact broken rfl

/-- What stays of a text behind a location is the end of its closing and all behind it. -/
theorem exists_left {ahead part between opening' closing' rest rest' : List Char} {consumed : Nat}
    (arrived : part = between ++ (opening' ++ (file ++ debugger.marker.separator ::
      (line ++ (closing' ++ rest)))))
    (spells : (ofList debugger.marker.closing).Spells closing' rest')
    (stop : consumed + debugger.marker.kept = (ahead ++ between).length + (opening'.length +
      (file.length + (1 + (line.length + closing'.length))))) :
    ∃ taken left, closing' = taken ++ left ∧ left.length = debugger.marker.kept ∧
      (ahead ++ part).drop consumed = left ++ rest := by
  have kept : debugger.marker.kept ≤ closing'.length := by
    obtain ⟨next, more, rfl, -⟩ := closing_starts spells
    have bound : debugger.marker.kept ≤ 1 := by
      cases debugger <;> decide
    exact Nat.le_trans bound (by simp)
  obtain ⟨taken, left, rfl, size⟩ : ∃ taken left, closing' = taken ++ left ∧
      left.length = debugger.marker.kept :=
    ⟨_, _, (List.take_append_drop (closing'.length - debugger.marker.kept) _).symm,
      by rw [List.length_drop]; omega⟩
  refine ⟨taken, left, rfl, size, ?_⟩
  have split : ahead ++ part = (ahead ++ (between ++ (opening' ++ (file ++
      debugger.marker.separator :: (line ++ taken))))) ++ (left ++ rest) := by
    rw [arrived]
    simp only [List.append_assoc, List.cons_append]
  have length : consumed = (ahead ++ (between ++ (opening' ++ (file ++
      debugger.marker.separator :: (line ++ taken))))).length := by
    simp only [List.length_append, List.length_cons] at stop ⊢
    omega
  rw [split, length, List.drop_left]

/-- However much of a printed location has arrived, what is found of it is its file name
and its line, and nothing that is left of it can fire. -/
theorem Prints.found (prints : debugger.Prints file line text) (named : file ≠ [])
    (unbroken : '\r' ∉ file ∧ '\n' ∉ file) (digits : Digits line)
    {ahead part due : List Char} (stream : part ++ due = '\n' :: text)
    {react : Finding → Reaction} {finding : Finding}
    (success : (⟨debugger.location, react⟩ : Rule).find? (ahead ++ part) = some finding)
    (behind : ahead.length ≤ finding.found.span.start) (policy : Location.Policy)
    (state : RunState) :
    finding.group 1 = file ∧ finding.group 2 = line ∧
      (debugger.rulebook policy).Inert state ((ahead ++ part).drop finding.consumed ++ due) := by
  obtain ⟨skipped, opening', file', line', closing', rest, shape, writes', spells', name, number,
    span, first⟩ := Marker.find?_writes debugger.location_form debugger.closing_plain
      debugger.closing_numbers success
  have consumed := location_consumed success
  rw [span] at behind consumed
  obtain ⟨between, rfl⟩ := List.prefix_of_prefix_length_le ⟨part, rfl⟩ ⟨_, shape.symm⟩ behind
  have arrived : part = between ++ (opening' ++ (file' ++ debugger.marker.separator ::
      (line' ++ (closing' ++ rest)))) := by
    rw [List.append_assoc] at shape
    exact List.append_cancel_left shape
  have whole : '\n' :: text = between ++ (opening' ++ (file' ++ debugger.marker.separator ::
      (line' ++ (closing' ++ (rest ++ due))))) := by
    rw [← stream, arrived]
    simp only [List.append_assoc, List.cons_append]
  have place := prints.lead_eq named unbroken digits writes' spells' stream whole first
  obtain ⟨closing, closes, printed⟩ := prints.shape
  obtain ⟨next, more, rfl, nondigit⟩ := closes.starts
  obtain ⟨next', more', rfl, nondigit'⟩ := closing_starts spells'
  rw [printed, place] at whole
  obtain ⟨rfl, rfl, ends⟩ := Marker.Writes.unique debugger.separator_mem
    (prints.writes named unbroken digits) writes' nondigit nondigit'
    (List.append_cancel_left whole)
  refine ⟨name, number, ?_⟩
  obtain ⟨taken, left, parts, size, dropped⟩ := exists_left arrived spells' consumed
  rw [dropped, List.append_assoc]
  rw [parts] at spells'
  refine closes.inert spells' ?_ size state
  rw [← parts]
  exact ends

/-! ## Expected locations -/

/-- A printed location is expected in every state that looks for locations. -/
theorem expects_location (prints : debugger.Prints file line text) (named : file ≠ [])
    (unbroken : '\r' ∉ file ∧ '\n' ∉ file) (digits : Digits line) {state : RunState}
    (watches : debugger.location ∈ debugger.watched state) {location : Location}
    (resolves : Location.resolve policy file line = .ok location) :
    (debugger.rulebook policy).Expects (Awaiting state) debugger.Carried text
      ⟨.paused, some (.jumpTo location)⟩ where
  tidy := debugger.rulebook_tidy policy
  stays := fun _ awaiting => awaiting.stays
  news := by
    rintro event (⟨-, other, rfl⟩ | reports)
    · rfl
    · obtain rfl : Event.jumpTo location = event := Option.some.inj reports
      rfl
  occurs := by
    intro other awaiting
    obtain ⟨rule, member, same⟩ := exists_rule_of_watched policy (awaiting.watched watches)
    obtain ⟨closing, closes, shape⟩ := prints.shape
    have spelled := (prints.writes named unbroken digits).spells closes.spells
    rw [← location_form, ← same] at spelled
    refine ⟨rule, member, debugger.lead, _, [], ?_, spelled⟩
    rw [List.append_nil]
    exact shape
  answers := by
    intro other awaiting rule member finding ahead part due stream success behind
    rcases mem_rules member with rfl | ⟨notice, noticed, rfl⟩
    · obtain ⟨name, number, inert⟩ :=
        prints.found named unbroken digits stream success behind policy .paused
      refine ⟨?_, inert⟩
      simp only [Reaction.jump, Finding.location, name, number, resolves]
    · exfalso
      obtain ⟨between, read, rest, rfl, spells, -⟩ :=
        Rule.find?_behind (notice_tidy noticed _).plain success behind
      have whole : '\n' :: text = between ++ (read ++ (rest ++ due)) := by
        rw [← stream]
        simp only [List.append_assoc]
      exact prints.unspelled unbroken digits noticed whole spells

/-- Whatever has been heard before, a printed location is understood, however it is cut
into pieces: the listener is paused, and the last event but for text given up is the jump
to this file and this line. The debuggers that look at nothing behind a location report
nothing else. -/
theorem location_understood (debugger : Debugger) (options : Options)
    (history pieces : List (List UInt8)) {listener : Listener}
    (reached : ((debugger.listener options).feedAll history).2 = listener)
    (stopped : debugger = .lldb → listener.state = .paused ∨ listener.state = .terminated)
    {file text : List Char} {line : Nat}
    (prints : debugger.Prints file (Numeral.ofNat line) text) (named : file ≠ [])
    (trimmed : Text.trim file = file) (unbroken : '\r' ∉ file ∧ '\n' ∉ file)
    (positive : 1 ≤ line) (within : line ≤ 4294967295)
    (room : Utf8.byteLength ('\n' :: text) ≤ options.bounds.keepTail)
    (cut : pieces.flatten = Utf8.encode ('\n' :: text)) :
    (listener.feedAll pieces).2.state = .paused ∧ ∃ location,
      Location.resolve options.policy file (Numeral.ofNat line) = .ok location ∧
      ((listener.feedAll pieces).1.flatten.filter Event.isNews).getLast? =
        some (.jumpTo location) ∧
      (debugger = .gdb ∨ debugger = .pdb →
        (listener.feedAll pieces).1.flatten.filter Event.isNews = [.jumpTo location]) := by
  obtain ⟨settled, book, bounds, shown⟩ := debugger.listener_settled options history
  rw [reached] at settled book bounds shown
  have digits := digits_ofNat line
  have watches : debugger.location ∈ debugger.watched listener.state := by
    have inspected : ∀ state ∈ debugger.states, (debugger = .lldb → state ≠ .running) →
        debugger.location ∈ debugger.watched state := by
      cases debugger <;> decide
    apply inspected _ shown
    intro same
    rcases stopped same with state | state <;> simp [state]
  obtain ⟨location, resolves⟩ : ∃ location,
      Location.resolve options.policy file (Numeral.ofNat line) = .ok location :=
    ⟨_, Location.resolve_ofNat options.policy named trimmed positive within⟩
  have expects : listener.book.Expects (Awaiting listener.state) debugger.Carried text
      ⟨.paused, some (.jumpTo location)⟩ := by
    rw [book]
    exact expects_location prints named unbroken digits watches resolves
  obtain ⟨jumps, carried, news, state⟩ := expects.feedAll settled (.inl rfl) (bounds ▸ room) cut
  rw [Option.toList_some] at news
  refine ⟨state, location, resolves, by rw [news, List.getLast?_concat], fun only => ?_⟩
  have none : jumps = [] := by
    apply List.eq_nil_iff_forall_not_mem.mpr
    intro event member
    apply (carried event member).1
    rcases only with rfl | rfl <;> rfl
  rw [news, none, List.nil_append]

/-- A location of gdb, cut inside a character of the file name and in front of the column,
behind bytes that never became a character. -/
theorem location_understood_cut_in_character :
    let listener := ((Debugger.gdb.listener .standard).feedAll [[10, 26, 195]]).2
    let fed := listener.feedAll [[10, 26, 26, 195], [169, 46, 99, 58, 55], [58, 51]]
    fed.2.state = .paused ∧ ∃ location,
      Location.resolve .verbatim "é.c".toList (Numeral.ofNat 7) = .ok location ∧
      fed.1.flatten.filter Event.isNews = [.jumpTo location] := by
  have prints : Debugger.gdb.Prints "é.c".toList (Numeral.ofNat 7) _ :=
    .gdb (by decide) (by decide) (digits_ofNat 3)
  obtain ⟨state, location, resolves, -, only⟩ := location_understood .gdb .standard
    [[10, 26, 195]] [[10, 26, 26, 195], [169, 46, 99, 58, 55], [58, 51]] rfl
    (fun impossible => by cases impossible) prints (by decide) (by decide) (by decide) (by decide)
    (by decide) (by decide) (by decide)
  exact ⟨state, location, resolves, only (.inl rfl)⟩

end Debugger

end DebugConsole
