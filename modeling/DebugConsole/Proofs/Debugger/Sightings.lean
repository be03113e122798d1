import DebugConsole.Proofs.Debugger.Marker
import DebugConsole.Proofs.Listener.History
import DebugConsole.Proofs.Location

/-!
# Where locations come from

A `Sighting` is a marker in the stream of output, with its place. Every location that a
listener reports is told by one (`Debugger.feedAll_sightings`): neither the cuts between
chunks nor the text given up can make a shorter line number or file name of it.

`Told` says this of some events and a stretch of the stream. One transition tells its
events within its segment, and stretches that follow each other are put together.
-/

namespace DebugConsole

open Pattern

/-- The location that an event reports. -/
def Event.location? : Event → Option Location
  | .jumpTo location => some location
  | _ => none

/-- A marker in a stream: how many characters precede it, and the texts at its places. -/
structure Sighting where
  start : Nat
  opening : List Char
  file : List Char
  line : List Char

namespace Sighting

/-- The text of a sighting, up to the last digit of its line number. -/
def text (sighting : Sighting) (marker : Marker) : List Char :=
  sighting.opening ++ (sighting.file ++ marker.separator :: sighting.line)

/-- How many characters there are up to the end of a sighting. -/
def stop (sighting : Sighting) : Nat :=
  sighting.start +
    (sighting.opening.length + (sighting.file.length + (1 + sighting.line.length)))

/-- A sighting lies in a stream, and the character behind its line number has arrived and
is no digit. -/
structure LiesIn (sighting : Sighting) (marker : Marker) (stream : List Char) : Prop where
  place : ∃ before next after, stream = before ++ (sighting.text marker ++ next :: after) ∧
    before.length = sighting.start ∧ Text.isDigit next = false
  writes : marker.Writes sighting.opening sighting.file sighting.line

/-- More output does not move a sighting. -/
theorem LiesIn.append {sighting : Sighting} {marker : Marker} {stream : List Char}
    (lies : sighting.LiesIn marker stream) (more : List Char) :
    sighting.LiesIn marker (stream ++ more) where
  place := by
    obtain ⟨before, next, after, rfl, start, nondigit⟩ := lies.place
    exact ⟨before, next, after ++ more, by simp, start, nondigit⟩
  writes := lies.writes

/-- A sighting says which file and which line a location is about. -/
def Tells (policy : Location.Policy) (sighting : Sighting) (location : Location) : Prop :=
  Location.resolve policy sighting.file sighting.line = .ok location ∧
    1 ≤ location.line ∧ location.line ≤ 4294967295

end Sighting

/-- The locations among some events are told, in order, by sightings between two places
of a stream, none of which overlaps another. -/
def Told (marker : Marker) (policy : Location.Policy) (stream : List Char) (low high : Nat)
    (events : List Event) : Prop :=
  ∃ sightings : List Sighting,
    (∀ sighting ∈ sightings,
      sighting.LiesIn marker stream ∧ low ≤ sighting.start ∧ sighting.stop ≤ high) ∧
    List.Forall₂ (Sighting.Tells policy) sightings (events.filterMap Event.location?) ∧
    sightings.Pairwise fun earlier later => earlier.stop ≤ later.start

namespace Told

variable {marker : Marker} {policy : Location.Policy} {stream : List Char} {low middle high : Nat}
  {events later : List Event}

theorem of_none (none : events.filterMap Event.location? = []) :
    Told marker policy stream low high events :=
  ⟨[], by simp, none ▸ .nil, .nil⟩

/-- Sightings of one stretch come before those of the next. -/
theorem append (first : Told marker policy stream low middle events)
    (second : Told marker policy stream middle high later) (below : low ≤ middle)
    (above : middle ≤ high) : Told marker policy stream low high (events ++ later) := by
  obtain ⟨sightings, lie, tell, apart⟩ := first
  obtain ⟨sightings', lie', tell', apart'⟩ := second
  refine ⟨sightings ++ sightings', fun sighting member => ?_, ?_, ?_⟩
  · rcases List.mem_append.mp member with member | member
    · obtain ⟨lies, start, stop⟩ := lie sighting member
      exact ⟨lies, start, Nat.le_trans stop above⟩
    · obtain ⟨lies, start, stop⟩ := lie' sighting member
      exact ⟨lies, Nat.le_trans below start, stop⟩
  · rw [List.filterMap_append]
    exact List.rel_append tell tell'
  · refine List.pairwise_append.mpr ⟨apart, apart', fun earlier member other member' => ?_⟩
    exact Nat.le_trans (lie earlier member).2.2 (lie' other member').2.1

/-- What was told stays told as more output arrives. -/
theorem extend (told : Told marker policy stream low high events) (more : List Char) :
    Told marker policy (stream ++ more) low high events := by
  obtain ⟨sightings, lie, tell, apart⟩ := told
  refine ⟨sightings, fun sighting member => ?_, tell, apart⟩
  obtain ⟨lies, bounds⟩ := lie sighting member
  exact ⟨lies.append more, bounds⟩

theorem widen (told : Told marker policy stream low middle events) (above : middle ≤ high) :
    Told marker policy stream low high events := by
  obtain ⟨sightings, lie, tell, apart⟩ := told
  refine ⟨sightings, fun sighting member => ?_, tell, apart⟩
  obtain ⟨lies, start, stop⟩ := lie sighting member
  exact ⟨lies, start, Nat.le_trans stop above⟩

end Told

namespace Debugger

variable {debugger : Debugger} {policy : Location.Policy}

theorem kept_le (debugger : Debugger) : debugger.marker.kept ≤ 1 := by
  cases debugger <;> decide

/-- A finding of a location is a sighting within the text that is taken away. -/
theorem exists_sighting {react : Finding → Reaction} {text : List Char} {finding : Finding}
    (success : (⟨debugger.location, react⟩ : Rule).find? text = some finding)
    (before : List Char) :
    ∃ sighting : Sighting, sighting.LiesIn debugger.marker (before ++ text) ∧
      before.length ≤ sighting.start ∧ sighting.stop ≤ before.length + finding.consumed ∧
      finding.group 1 = sighting.file ∧ finding.group 2 = sighting.line := by
  obtain ⟨skipped, opening, file, line, closing, rest, shape, writes, spells, name, number, span,
    -⟩ := Marker.find?_writes debugger.location_form debugger.closing_plain
      debugger.closing_numbers success
  obtain ⟨next, more, rfl, nondigit⟩ := closing_starts spells
  refine ⟨⟨(before ++ skipped).length, opening, file, line⟩,
    ⟨⟨before ++ skipped, next, more ++ rest, ?_, rfl, nondigit⟩, writes⟩, ?_, ?_, name, number⟩
  · rw [shape, Sighting.text]
    simp only [List.append_assoc, List.cons_append]
  · simp only [List.length_append]
    omega
  · have taken := location_consumed success
    have kept := debugger.kept_le
    rw [span] at taken
    simp only [List.length_cons] at taken
    simp only [Sighting.stop, List.length_append]
    omega

/-- A transition tells its location within its segment. -/
theorem takes_told {transition : Transition}
    (takes : (debugger.rulebook policy).Takes transition) (before : List Char) :
    Told debugger.marker policy (before ++ transition.text) before.length
      (before.length + transition.segment.length) transition.reaction.event.toList := by
  obtain ⟨rule, here, found, reacts⟩ := takes.fires
  rw [takes.length_segment]
  rcases mem_rules (List.mem_of_getElem? here) with rfl | ⟨notice, member, rfl⟩
  · obtain ⟨sighting, lies, start, stop, name, number⟩ := exists_sighting found before
    have reacts : transition.reaction =
        Reaction.jump policy transition.state transition.finding := reacts
    rw [reacts, Reaction.jump, Finding.location, name, number]
    split
    · next location resolves =>
      refine ⟨[sighting], by simpa using ⟨lies, start, stop⟩, .cons ?_ .nil, by simp⟩
      exact ⟨resolves, Location.resolve_line resolves⟩
    · exact Told.of_none rfl
  · rw [reacts]
    apply Told.of_none
    have silent : ∀ notice ∈ debugger.notices,
        notice.2.event.toList.filterMap Event.location? = [] := by
      cases debugger <;> decide
    exact silent notice member

/-- A chain tells its locations within the text that its transitions take. -/
theorem chain_told {state final : RunState} {text rest : List Char}
    {transitions : List Transition}
    (chain : (debugger.rulebook policy).Chain state text transitions final rest)
    (before : List Char) :
    Told debugger.marker policy (before ++ text) before.length
      (before ++ (transitions.map Transition.segment).flatten).length
      (transitions.filterMap (·.reaction.event)) := by
  induction chain generalizing before with
  | quiet _ => exact Told.of_none rfl
  | @idle transition takes nothing =>
    have told := takes_told takes before
    rw [nothing] at told
    have single : [transition].filterMap (·.reaction.event) = transition.reaction.event.toList := by
      cases event : transition.reaction.event <;> simp [event]
    rw [single]
    exact told.widen (by simp)
  | @step transition rest later state text takes something parts chain inductionHypothesis =>
    have first := takes_told takes before
    have second := inductionHypothesis (before ++ transition.segment)
    rw [List.append_assoc, ← parts] at second
    have events : (transition :: later).filterMap (·.reaction.event) =
        transition.reaction.event.toList ++ later.filterMap (·.reaction.event) := by
      cases event : transition.reaction.event <;> simp [event]
    rw [events, List.map_cons, List.flatten_cons, ← List.append_assoc]
    rw [← List.length_append] at first
    exact first.append second (by simp) (by simp)

/-- A history tells its locations within the text it starts from and what was heard. -/
theorem history_told {state final : RunState} {text rest : List Char} {episodes : List Episode}
    (history : History (debugger.rulebook policy) state text episodes final rest)
    (before : List Char) :
    Told debugger.marker policy (before ++ (text ++ (episodes.map Episode.heard).flatten))
      before.length (before ++ (text ++ (episodes.map Episode.heard).flatten)).length
      (episodes.map Episode.events).flatten := by
  induction history generalizing before with
  | nil => exact Told.of_none rfl
  | @cons state text episode middle kept later final rest chain history inductionHypothesis =>
    have first := (chain_told chain before).extend (later.map Episode.heard).flatten
    have second := inductionHypothesis (before ++
      ((episode.transitions.map Transition.segment).flatten ++ episode.lost.getD []))
    have parts := chain.text_eq
    have stream : before ++ (text ++ ((episode :: later).map Episode.heard).flatten) =
        before ++ (text ++ episode.heard) ++ (later.map Episode.heard).flatten := by
      simp only [List.map_cons, List.flatten_cons, List.append_assoc]
    have stream' : before ++ ((episode.transitions.map Transition.segment).flatten ++
        episode.lost.getD []) ++ (kept ++ (later.map Episode.heard).flatten) =
        before ++ (text ++ episode.heard) ++ (later.map Episode.heard).flatten := by
      rw [parts]
      simp only [List.append_assoc]
    rw [stream'] at second
    rw [stream, List.map_cons, List.flatten_cons, Episode.events]
    have given : Told debugger.marker policy
        (before ++ (text ++ episode.heard) ++ (later.map Episode.heard).flatten)
        (before ++ (episode.transitions.map Transition.segment).flatten).length
        (before ++ ((episode.transitions.map Transition.segment).flatten ++
          episode.lost.getD [])).length
        (episode.lost.map fun text => Event.stalled (Utf8.byteLength text)).toList := by
      apply Told.of_none
      cases episode.lost <;> rfl
    have upTo : (before ++ ((episode.transitions.map Transition.segment).flatten ++
        episode.lost.getD [])).length ≤
        (before ++ (text ++ episode.heard) ++ (later.map Episode.heard).flatten).length := by
      rw [← stream']
      simp only [List.length_append]
      omega
    exact (first.append given (by simp) (by simp)).append second (by simp) upTo

/-- No location is invented or cut short. Whatever the chunks, each location reported is
told by a sighting of the debugger's marker in the stream of all text decoded so far,
which starts with a line break of the listener's own, and the sightings follow each other
in the order of the reports. -/
theorem feedAll_sightings (debugger : Debugger) (options : Options)
    (chunks : List (List UInt8)) :
    ∃ complete, ∃ sightings : List Sighting,
      chunks.flatten = complete ++ ((debugger.listener options).feedAll chunks).2.pending ∧
      (∀ sighting ∈ sightings, sighting.LiesIn debugger.marker ('\n' :: Utf8.lossy complete)) ∧
      List.Forall₂ (fun sighting location =>
          Location.resolve options.policy sighting.file sighting.line = .ok location ∧
            1 ≤ location.line ∧ location.line ≤ 4294967295)
        sightings
        (((debugger.listener options).feedAll chunks).1.flatten.filterMap Event.location?) ∧
      sightings.Pairwise fun earlier later => earlier.stop ≤ later.start := by
  obtain ⟨episodes, complete, shape, heard, events, history⟩ :=
    (debugger.listener options).exists_history chunks
  obtain ⟨sightings, lie, tell, apart⟩ := history_told history []
  rw [heard] at lie
  refine ⟨complete, sightings, shape, fun sighting member => (lie sighting member).1, ?_, apart⟩
  rw [events]
  exact tell

end Debugger

end DebugConsole
