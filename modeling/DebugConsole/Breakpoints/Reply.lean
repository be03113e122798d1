import DebugConsole.Breakpoints.Basic
import DebugConsole.Json.Reader
import DebugConsole.Json.Writer
import DebugConsole.Text.Blank
import DebugConsole.Text.Quoted

/-!
# Replies to breakpoint queries

The request for a file's breakpoints, and what a reply to it says. A reply may have
any text in front of its payload, which starts at the first opening brace, and any
text behind it. The payload gives a list of ids for each line; the member `_error`
is no line but says that the debugger refused to answer.
-/

namespace DebugConsole

/-- The request for the breakpoints of a file. -/
def Breakpoints.request (file : Path) : String := "info-breakpoints " ++ file.text ++ "\n"

/-- Why a reply has no usable breakpoints. What the reader of a payload has to say about one
that is no JSON is not kept. -/
inductive Malformation where
  | noPayload (reply : String)
  | unreadable
  | noIdList (line : String)
  | badId (line : String) (id : Json)

/-- The wording of a malformation. -/
def Malformation.message : Malformation → String
  | .noPayload reply => "no '\x7b' in response: " ++ Text.quote reply
  | .unreadable => "unreadable payload"
  | .noIdList line => "line " ++ line ++ ": expected a list of ids"
  | .badId line id => "line " ++ line ++ ": unexpected breakpoint id " ++ id.write

namespace Reply

/-- Why a reply gives no breakpoints. -/
inductive Fault where
  | malformed (cause : Malformation)
  | reported (message : String)

/-- The member that reports a refusal. -/
def errorName : String := "_error"

/-- The refusal that the value of the error member reports, if it reports one. -/
def refusal? : Json → Option String
  | .string message => if message.isEmpty then none else some message
  | .null | .bool false => none
  | other => some other.write

/-- The text of an id. -/
def idText? : Json → Option String
  | .string id => some id
  | .number id => some id.text
  | _ => none

/-- The ids of a line; the first that is none is told. -/
def idTexts (line : String) (earlier : List String) : List Json → Except Malformation (List String)
  | [] => .ok earlier.reverse
  | id :: later =>
    match idText? id with
    | some text => idTexts line (text :: earlier) later
    | none => .error (.badId line id)

/-- Adds the members of a payload to breakpoints, in their order; the first that
cannot be added is told. -/
def addMembers (breakpoints : Breakpoints) : List (String × Json) → Except Fault Breakpoints
  | [] => .ok breakpoints
  | (line, value) :: later =>
    if line = errorName then
      match refusal? value with
      | some message => .error (.reported message)
      | none => addMembers breakpoints later
    else
      match value with
      | .array ids =>
        match idTexts line [] ids with
        | .ok texts => addMembers (breakpoints.insert line texts) later
        | .error cause => .error (.malformed cause)
      | _ => .error (.malformed (.noIdList line))

/-- The payload of a reply, from its first opening brace on. -/
def payload (reply : List Char) : List Char := reply.dropWhile (· != '{')

/-- What a reply says. An absent or blank reply means that there are no breakpoints
yet. -/
def read (reply : Option String) : Except Fault Breakpoints :=
  match reply with
  | none => .ok .empty
  | some text =>
    if Text.isAllBlank text.toList then .ok .empty
    else
      let found := payload text.toList
      if found.isEmpty then .error (.malformed (.noPayload text))
      else
        match (Json.readFront found).map fun (front : Json × List Char) => front.1.canonical with
        | some (Json.object members) => addMembers .empty members
        | _ => .error (.malformed .unreadable)

end Reply

end DebugConsole
