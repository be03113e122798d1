import DebugConsole.Invocation.Run
import DebugConsole.Json.Decode
import DebugConsole.Proofs.Breakpoints.Listing
import DebugConsole.Proofs.Debugger.Rules
import DebugConsole.Proofs.Json.Written
import DebugConsole.Proofs.Listener.Invariant
import DebugConsole.Proofs.Session.Independence
import DebugConsole.Session.Sink

/-!
# Notes written on lines

What a session writes on lines is what a recording keeps: split at the line breaks and
read line by line, the text gives back the notes in their order
(`Session.lines_recover_recording`). Line breaks in names, ids and messages do no harm, as
they are written as escapes. What a replay prints is such a text
(`Invocation.replayBytes_printed`).
-/

namespace DebugConsole

/-! ## Reading a note -/

/-- A list is recovered from what is made of its items, each of which is. -/
theorem mapM_map_eq_some {Item Made : Type} {make : Item → Made} {recover : Made → Option Item}
    {items : List Item} (each : ∀ item ∈ items, recover (make item) = some item) :
    (items.map make).mapM recover = some items := by
  induction items with
  | nil => rfl
  | cons item later inductionHypothesis =>
    obtain ⟨here, others⟩ := List.forall_mem_cons.mp each
    rw [List.map_cons, List.mapM_cons, here, inductionHypothesis others]
    rfl

namespace Json

/-- The text that a value stands for. -/
def string? : Json → Option String
  | .string text => some text
  | _ => none

/-- The amount of bytes that a value stands for. -/
def size? : Json → Option Nat
  | .number (.whole value) =>
    if 0 ≤ value ∧ value ≤ Numeral.largest64 then some value.toNat else none
  | _ => none

/-- The ids that a value lists. -/
def ids? : Json → Option (List String)
  | .array elements => elements.mapM string?
  | _ => none

/-- A line and the ids that a member lists for it. -/
def lineIds? (member : String × Json) : Option (String × List String) :=
  member.2.ids?.map (member.1, ·)

/-- The breakpoints that a value lists. -/
def breakpoints? : Json → Option Breakpoints
  | .object members => (members.mapM lineIds?).map Breakpoints.ofPairs
  | _ => none

theorem ids?_ofIds (ids : List String) : (ofIds ids).ids? = some ids :=
  mapM_map_eq_some fun _ _ => rfl

theorem breakpoints?_ofBreakpoints (breakpoints : Breakpoints) :
    (ofBreakpoints breakpoints).breakpoints? = some breakpoints := by
  have lines : (breakpoints.entries.map fun entry => (entry.1, ofIds entry.2)).mapM lineIds? =
      some breakpoints.entries :=
    mapM_map_eq_some fun entry _ => by rw [lineIds?, ids?_ofIds, Option.map_some]
  rw [ofBreakpoints, Json.breakpoints?, lines, Option.map_some, Breakpoints.ofPairs_entries]

end Json

namespace Note

/-- The note that the members of an object tell under a name. -/
def ofMembers? (members : List (String × Json)) : String → Option Note
  | "jump" => (Json.object members).location?.map .jump
  | "resumed" => some .resumed
  | "terminated" => some .terminated
  | "breakpoints_updated" => do
    let file ← (Json.member? members "file").bind Json.path?
    let breakpoints ← (Json.member? members "breakpoints").bind Json.breakpoints?
    return .breakpointsUpdated file breakpoints
  | "query_error" => do
    let file ← (Json.member? members "file").bind Json.path?
    let message ← (Json.member? members "message").bind Json.string?
    return .queryError file message
  | "stalled" => ((Json.member? members "discarded").bind Json.size?).map .stalled
  | _ => none

/-- The note that a value stands for. -/
def ofJson? : Json → Option Note
  | .object members => ((Json.member? members "event").bind Json.string?).bind (ofMembers? members)
  | _ => none

/-- The note on a line. -/
def ofLine? (line : List Char) : Option Note := (Json.read line).bind ofJson?

/-- The notes on the lines of a text. Behind the last line break there is nothing more. -/
def ofLines? (text : List Char) : Option (List Note) :=
  (text.splitOn '\n').dropLast.mapM ofLine?

/-- The numbers of a note are of the sizes that line numbers and amounts of bytes have. -/
def Sized : Note → Prop
  | .jump location => location.line ≤ Numeral.largest32
  | .stalled discarded => discarded ≤ Numeral.largest64
  | .resumed | .terminated | .breakpointsUpdated _ _ | .queryError _ _ => True

variable {note : Note}

theorem ofJson?_json (sized : note.Sized) : ofJson? note.json = some note := by
  cases note with
  | jump location =>
    have fits : location.line ≤ Numeral.largest32 := sized
    have line : (Json.ofNat location.line).line? = some location.line := by
      simp [Json.ofNat, Json.line?, fits]
    simp [json, members, ofJson?, ofMembers?, Json.member?, Json.location?, Json.path?,
      Json.string?, name, line]
  | stalled discarded =>
    have fits : discarded ≤ Numeral.largest64 := sized
    have size : (Json.ofNat discarded).size? = some discarded := by
      simp [Json.ofNat, Json.size?, fits]
    exact congrArg (Option.map Note.stalled) size
  | breakpointsUpdated file breakpoints =>
    have listed := Json.breakpoints?_ofBreakpoints breakpoints
    simp [json, members, ofJson?, ofMembers?, Json.member?, Json.path?, Json.string?, name, listed]
  | queryError file message => rfl
  | resumed | terminated => rfl

/-- A note is no deeper than its breakpoints, and its numbers are within 64 bits. -/
theorem legible_json (sized : note.Sized) : Json.Legible Json.largestDepth note.json := by
  have each : ∀ member ∈ note.members, Json.Legible 126 member.2 := by
    cases note with
    | jump location =>
      have fits : location.line ≤ Numeral.largest32 := sized
      have number : Json.Legible 126 (.ofNat location.line) :=
        Json.legible_ofNat (Nat.le_trans fits (by decide)) 126
      simpa [members] using ⟨.string _, number⟩
    | stalled discarded =>
      have number : Json.Legible 126 (.ofNat discarded) := Json.legible_ofNat sized 126
      simpa [members] using number
    | breakpointsUpdated file breakpoints =>
      have listing := Json.legible_ofBreakpoints breakpoints 124
      simpa [members] using ⟨.string _, listing⟩
    | queryError file message => simpa [members] using ⟨.string _, .string _⟩
    | resumed | terminated => simp [members]
  exact .object (List.forall_mem_cons.mpr ⟨.string _, each⟩)

/-- A note is recovered from its line. -/
theorem ofLine?_writeChars (sized : note.Sized) : ofLine? note.json.writeChars = some note := by
  rw [ofLine?, Json.read_written (legible_json sized)]
  exact ofJson?_json sized

/-- A text of lines is split where they end. -/
theorem splitOn_lines {lines : List (List Char)} (unbroken : ∀ line ∈ lines, '\n' ∉ line) :
    (lines.flatMap (· ++ ['\n'])).splitOn '\n' = lines ++ [[]] := by
  induction lines with
  | nil => rfl
  | cons line later inductionHypothesis =>
    obtain ⟨here, others⟩ := List.forall_mem_cons.mp unbroken
    have apart : ∀ character ∈ line, (character == '\n') = false := fun character member =>
      beq_eq_false_iff_ne.mpr fun same => here (same ▸ member)
    rw [List.flatMap_cons, List.append_assoc, List.singleton_append, List.splitOn,
      List.splitOnP_append_cons_of_forall_mem apart _ rfl, ← List.splitOn,
      inductionHypothesis others]
    rfl

end Note

/-! ## Runs into a sink -/

/-- No debugger reports a line number of more than 32 bits. -/
theorem Debugger.jumpTo_line_le (debugger : Debugger) (options : Debugger.Options)
    (chunks : List (List UInt8)) {location : Location}
    (reported : .jumpTo location ∈ ((debugger.listener options).feedAll chunks).1.flatten) :
    location.line ≤ Numeral.largest32 := by
  have keeps : (debugger.rulebook options.policy).Keeps fun _ events =>
      ∀ location, .jumpTo location ∈ events → location.line ≤ Numeral.largest32 :=
    { fires := by
        intro state events rule member within finding location happened
        rcases List.mem_append.mp happened with earlier | now
        · exact within location earlier
        · rcases event_cases member (Option.mem_toList.mp now) with
            ⟨resolved, resolves, same⟩ | other
          · cases same
            exact (Location.resolve_line resolves).2
          · simp at other
      stalls := by
        intro state events discarded within location happened
        exact within location (by simpa using happened) }
  exact (debugger.listener options).feedAll_of_keeps keeps (by simp) chunks location reported

namespace Session

variable {World Content : Type} (surroundings : Surroundings World) (session : Session)

/-- Performs operations one after the other, and gives what the editor is told by each to a
sink: what the sink holds afterwards, and the session. -/
def performInto (sink : Sink Content) (content : Content) (session : Session) :
    List Operation → StateM World (Content × Session)
  | [] => return (content, session)
  | operation :: later => do
    let (notes, performed) ← session.perform surroundings operation
    performInto sink (sink.takeAll content notes) performed later

theorem performInto_eq (sink : Sink Content) (content : Content) (operations : List Operation)
    (world : World) :
    session.performInto surroundings sink content operations world =
      let run := session.performAll surroundings operations world
      ((sink.takeAll content run.1.1.flatten, run.1.2), run.2) := by
  induction operations generalizing session content world with
  | nil => rfl
  | cons operation later inductionHypothesis =>
    have first : session.performInto surroundings sink content (operation :: later) world =
        (session.perform surroundings operation world).1.2.performInto surroundings sink
          (sink.takeAll content (session.perform surroundings operation world).1.1) later
          (session.perform surroundings operation world).2 := rfl
    rw [first, inductionHypothesis, performAll_cons]
    dsimp only
    rw [List.flatten_cons, Sink.takeAll_append]

/-- The numbers of every note of a run are of the right sizes, as long as what was given up
fits in memory. -/
theorem sized_of_performAll (debugger : Debugger) (options : Debugger.Options)
    (operations : List Operation) (world : World) {note : Note}
    (told : note ∈ ((start debugger options).performAll surroundings operations world).1.1.flatten)
    (fits : ∀ discarded, note = .stalled discarded → discarded ≤ Numeral.largest64) :
    note.Sized := by
  cases note with
  | jump location =>
    -- No query tells of a jump, so it was reported by the listener.
    have heard : Note.jump location ∈
        ((start debugger options).performAll surroundings operations world).1.1.flatten.filter
          Note.isHeard := List.mem_filter.mpr ⟨told, rfl⟩
    rw [performAll_heard] at heard
    obtain ⟨event, reported, same⟩ := List.mem_filterMap.mp heard
    obtain rfl : event = .jumpTo location := by
      cases event <;> simp_all [Event.note?]
    exact debugger.jumpTo_line_le options _ reported
  | stalled discarded => exact fits discarded rfl
  | resumed | terminated | breakpointsUpdated _ _ | queryError _ _ => trivial

/-- What is written on lines is what is recorded. Whatever is done with a session, and
whatever its channel and its terminal do, the text written has one line for each note that
a recording of the same run keeps, in the same order. No line is broken, whatever line breaks
there are in names, ids and messages; each is read as one object, which gives back its note
with all that it tells. So the notes recorded are recovered from the text, split at the line
breaks. The amounts of bytes given up are taken to fit in 64 bits, as all amounts of memory
do. -/
theorem lines_recover_recording (debugger : Debugger) (options : Debugger.Options)
    (operations : List Operation) (world : World) :
    let session := start debugger options
    let recording :=
      session.performInto surroundings .recording Sink.recording.start operations world
    let lines := session.performInto surroundings .lines Sink.lines.start operations world
    let recorded := recording.1.1
    let written := lines.1.1.toList
    (∀ discarded, .stalled discarded ∈ recorded → discarded ≤ Numeral.largest64) →
      (lines.1.2, lines.2) = (recording.1.2, recording.2) ∧
      written = recorded.flatMap (fun note => note.json.writeChars ++ ['\n']) ∧
      written.splitOn '\n' = recorded.map (·.json.writeChars) ++ [[]] ∧
      (∀ note ∈ recorded, '\n' ∉ note.json.writeChars ∧
        (∃ members, Json.read note.json.writeChars = some (.object members)) ∧
        Note.ofLine? note.json.writeChars = some note) ∧
      Note.ofLines? written = some recorded := by
  intro session recording lines recorded written fits
  let run := session.performAll surroundings operations world
  have recording_eq : recording =
      ((Sink.recording.takeAll [] run.1.1.flatten, run.1.2), run.2) :=
    session.performInto_eq surroundings .recording [] operations world
  have lines_eq : lines = ((Sink.lines.takeAll "" run.1.1.flatten, run.1.2), run.2) :=
    session.performInto_eq surroundings .lines "" operations world
  have recorded_eq : recorded = run.1.1.flatten :=
    (congrArg (·.1.1) recording_eq).trans (Sink.recording_takeAll [] _)
  have written_eq : written = recorded.flatMap fun note => note.json.writeChars ++ ['\n'] := by
    have text : lines.1.1 = Sink.lines.takeAll "" run.1.1.flatten := congrArg (·.1.1) lines_eq
    have taken := Sink.lines_takeAll "" run.1.1.flatten
    rwa [← text, ← recorded_eq] at taken
  have sized : ∀ note ∈ recorded, note.Sized := fun note told =>
    sized_of_performAll surroundings debugger options operations world (recorded_eq ▸ told)
      fun discarded same => fits discarded (same ▸ told)
  have unbroken : ∀ note ∈ recorded, '\n' ∉ note.json.writeChars := fun note _ =>
    (Json.printed_writeChars note.json).newline_not_mem
  have recovered : ∀ note ∈ recorded, Note.ofLine? note.json.writeChars = some note :=
    fun note told => Note.ofLine?_writeChars (sized note told)
  have split : written.splitOn '\n' = recorded.map (·.json.writeChars) ++ [[]] := by
    have lines_unbroken : ∀ line ∈ recorded.map (·.json.writeChars), '\n' ∉ line := by
      simpa using unbroken
    rw [written_eq, ← Note.splitOn_lines lines_unbroken, List.flatMap_map]
  refine ⟨?_, written_eq, split, fun note told => ⟨unbroken note told, ?_, recovered note told⟩, ?_⟩
  · rw [recording_eq, lines_eq]
  · exact ⟨_, Json.read_written (Note.legible_json (sized note told))⟩
  · rw [Note.ofLines?, split, List.dropLast_concat]
    exact mapM_map_eq_some recovered

/-- A file whose name has a line break and a quotation mark, a refusal in two lines, a
breakpoint id that is a control character, and text that is given up. -/
theorem lines_recover_recording_odd_texts :
    let file : Path := ⟨"/odd\n\"name\".c"⟩
    let refusal := Answer.text "\x7b\"_error\":\"no symbols\\nare loaded\"\x7d"
    let listing := Answer.text "\x7b\"7\\n8\":[\"\\u0001\",\"\"]\x7d"
    let operations : List Operation := [.watch file, .refresh,
      .feed (Utf8.encode "\x1a\x1a/a\t.c:3:0\n".toList),
      .feed (Utf8.encode "noise without an end".toList), .finish]
    let world := (Rehearsal.fresh.prepare refusal).prepare listing
    let session := start .gdb ⟨.verbatim, ⟨8, 4⟩⟩
    let recorded := (session.performInto Rehearsal.surroundings .recording
      Sink.recording.start operations world).1.1
    let written := (session.performInto Rehearsal.surroundings .lines
      Sink.lines.start operations world).1.1
    recorded = [.queryError file "no symbols\nare loaded",
      .breakpointsUpdated file (.ofPairs [("7\n8", ["\x01", ""])]), .jump ⟨⟨"/a\t.c"⟩, 3⟩,
      .stalled 17] ∧
    (∀ discarded, .stalled discarded ∈ recorded → discarded ≤ Numeral.largest64) ∧
    Note.ofLines? written.toList = some recorded := by
  intro file refusal listing operations world session recorded written
  have told : recorded = [.queryError file "no symbols\nare loaded",
      .breakpointsUpdated file (.ofPairs [("7\n8", ["\x01", ""])]), .jump ⟨⟨"/a\t.c"⟩, 3⟩,
      .stalled 17] := by
    decide +kernel
  have fits : ∀ discarded, .stalled discarded ∈ recorded → discarded ≤ Numeral.largest64 := by
    rw [told]
    simp [Numeral.largest64]
  obtain ⟨-, -, -, -, recovered⟩ := lines_recover_recording Rehearsal.surroundings .gdb
    ⟨.verbatim, ⟨8, 4⟩⟩ operations world fits
  exact ⟨told, fits, recovered⟩

end Session

/-- What a replay prints is what its session writes on lines. -/
theorem Invocation.replayBytes_printed {World : Type} (host : Host World) (debugger : Debugger)
    (options : Debugger.Options) (proxy : Option Proxy) (chunks : List (List UInt8))
    (world : World) :
    (Invocation.replayBytes host debugger options proxy chunks world).1 =
      ((Session.start debugger options).performInto (replaySurroundings host) .lines
        Sink.lines.start (chunks.map .feed) (proxy, world)).1.1 := by
  have fed : ∀ (printed : String) (session : Session) (world : Option Proxy × World),
      (feedAll (replaySurroundings host) printed session chunks world).1 =
        (session.performInto (replaySurroundings host) .lines printed (chunks.map .feed)
          world).1.1 := by
    induction chunks with
    | nil => exact fun _ _ _ => rfl
    | cons chunk later inductionHypothesis =>
      exact fun printed session world => inductionHypothesis _ _ _
  exact fed "" (Session.start debugger options) (proxy, world)

end DebugConsole
