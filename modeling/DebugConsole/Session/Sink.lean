import DebugConsole.Session.Note

/-!
# Sinks

A sink takes the notes of a session one by one. One keeps them as they are, another
writes each of them on a line of its own.
-/

namespace DebugConsole

/-- A receiver of notes: what it holds at first, and what it holds once it has taken one
more note. -/
structure Sink (Content : Type) where
  start : Content
  take : Content → Note → Content

namespace Sink

variable {Content : Type}

/-- Takes notes one after the other. -/
def takeAll (sink : Sink Content) (content : Content) (notes : List Note) : Content :=
  notes.foldl sink.take content

/-- Keeps every note in memory. -/
def recording : Sink (List Note) := ⟨[], fun notes note => notes ++ [note]⟩

/-- Writes every note on a line of its own, with a writer that never fails. -/
def lines : Sink String := ⟨"", fun text note => text ++ note.text⟩

@[simp] theorem takeAll_nil (sink : Sink Content) (content : Content) :
    sink.takeAll content [] = content := rfl

theorem takeAll_append (sink : Sink Content) (content : Content) (notes later : List Note) :
    sink.takeAll content (notes ++ later) = sink.takeAll (sink.takeAll content notes) later :=
  List.foldl_append

theorem recording_takeAll (content notes : List Note) :
    recording.takeAll content notes = content ++ notes := by
  induction notes generalizing content with
  | nil => exact (List.append_nil content).symm
  | cons note later inductionHypothesis =>
    exact (inductionHypothesis (content ++ [note])).trans (List.append_assoc content [note] later)

theorem lines_takeAll (content : String) (notes : List Note) :
    (lines.takeAll content notes).toList =
      content.toList ++ notes.flatMap fun note => note.json.writeChars ++ ['\n'] := by
  induction notes generalizing content with
  | nil => exact (List.append_nil content.toList).symm
  | cons note later inductionHypothesis =>
    have written : (content ++ note.text).toList =
        content.toList ++ (note.json.writeChars ++ ['\n']) := by
      rw [Note.text, Json.write, String.toList_append, String.toList_append, String.toList_ofList]
      rfl
    rw [List.flatMap_cons, ← List.append_assoc, ← written]
    exact inductionHypothesis (content ++ note.text)

end Sink

end DebugConsole
