import DebugConsole.Breakpoints.Reply
import DebugConsole.Error

/-!
# Breakpoint queries

A query sends one request for a file and stores what the answer says. Answers come
through a channel, which may stay silent or fail. A usable reply replaces what is
known of the file, and so does a malformed one, as no breakpoints; a refusal and a
failure of the channel leave everything as it was.
-/

namespace DebugConsole

/-- What comes back for a request. -/
inductive Answer where
  | silence
  | text (reply : String)
  | failure (error : Error)
  deriving DecidableEq, Repr, Inhabited

/-- Why a query gave no breakpoints. -/
inductive QueryFault where
  | malformed (cause : Malformation)
  | reported (message : String)
  | channel (error : Error)

/-- The wording of a fault. -/
def QueryFault.message : QueryFault → String
  | .malformed cause => "Malformed breakpoint response: " ++ cause.message
  | .reported message => "Can't get breakpoints: " ++ message
  | .channel error => "Side channel failure: " ++ error.message

namespace Answer

/-- The answer as a caller sees it: possibly a text, or an error. -/
def toExcept : Answer → Except Error (Option String)
  | .silence => .ok none
  | .text reply => .ok (some reply)
  | .failure error => .error error

/-- What an answer to a query says. -/
def breakpoints : Answer → Except QueryFault Breakpoints
  | .failure error => .error (.channel error)
  | .silence => .ok .empty
  | .text reply =>
    match Reply.read (some reply) with
    | .ok breakpoints => .ok breakpoints
    | .error (.malformed cause) => .error (.malformed cause)
    | .error (.reported message) => .error (.reported message)

end Answer

/-- Stores the outcome of a query for a file. -/
def BreakpointStore.learn (store : BreakpointStore) (file : Path) :
    Except QueryFault Breakpoints → BreakpointStore
  | .ok breakpoints => store.set file breakpoints
  | .error (.malformed _) => store.set file .empty
  | .error _ => store

/-- Asks a channel for the breakpoints of a file: what came of it, and the store
afterwards. -/
def BreakpointStore.query {World : Type} (request : String → StateM World Answer)
    (store : BreakpointStore) (file : Path) :
    StateM World (Except QueryFault Breakpoints × BreakpointStore) := do
  let answer ← request (Breakpoints.request file)
  return (answer.breakpoints, store.learn file answer.breakpoints)

end DebugConsole
