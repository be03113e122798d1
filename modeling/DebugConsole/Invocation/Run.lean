import DebugConsole.Invocation.Basic
import DebugConsole.Proxy.Basic
import DebugConsole.Scenario.Reader
import DebugConsole.Scenario.Run
import DebugConsole.Settings

/-!
# Running invocations

`Invocation.run` does what the program is asked to do, on a given host. It gives what
is printed, and an error if it fails; what was printed before stays.
-/

namespace DebugConsole

variable {World : Type}

/-- The settings in a file; the standard ones if there is no such file. -/
def Settings.load (host : Host World) (file : Path) : StateM World (Except Error Settings) := do
  match ← host.content file with
  | .error .missing => return .ok .standard
  | .error fault => return .error (.fileRead file fault)
  | .ok bytes => return (Host.decode file bytes).bind Settings.read

/-- What an invocation printed, and whether it failed. -/
structure InvocationOutcome where
  printed : String
  result : Except Error Unit

namespace InvocationOutcome

/-- Everything went well. -/
def success (printed : String) : InvocationOutcome := ⟨printed, .ok ()⟩

/-- Something failed after a text had been printed. -/
def failure (printed : String) (error : Error) : InvocationOutcome := ⟨printed, .error error⟩

end InvocationOutcome

namespace Invocation

/-! ## Replaying -/

/-- The surroundings of a replay: a recording takes no commands, and breakpoints are
asked for through a proxy if there is one. -/
def replaySurroundings (host : Host World) : Surroundings (Option Proxy × World) where
  request := Proxy.channel host
  sendLine line := return .error (.terminal s!"cannot send '{line}' while replaying")
  interrupt := return .error (.terminal "cannot interrupt while replaying")

/-- Cuts bytes into chunks of a given size, which come behind earlier ones; the last
one may be smaller. -/
def chunksOnto (size : Nat) (earlier : List (List UInt8)) :
    (fuel : Nat) → List UInt8 → List (List UInt8)
  | 0, _ => earlier.reverse
  | _, [] => earlier.reverse
  | fuel + 1, bytes => chunksOnto size (bytes.take size :: earlier) fuel (bytes.drop size)

/-- The chunks in which a recording is fed: all of it at once unless a size is given. -/
def feedChunks (size : Option Nat) (bytes : List UInt8) : List (List UInt8) :=
  match size.filter (0 < ·) with
  | some size => chunksOnto size [] bytes.length bytes
  | none => if bytes.isEmpty then [] else [bytes]

/-- Feeds chunks one after the other and gives what the editor is told. -/
def feedAll (surroundings : Surroundings World) (printed : String) (session : Session) :
    List (List UInt8) → StateM World String
  | [] => return printed
  | chunk :: later => do
    let (notes, session) ← session.feed surroundings chunk
    feedAll surroundings (notes.foldl (fun text note => text ++ note.text) printed) session later

/-- Replays a recording. -/
def replayBytes (host : Host World) (debugger : Debugger) (options : Debugger.Options)
    (proxy : Option Proxy) (chunks : List (List UInt8)) : StateM World String := fun world =>
  let (printed, _, world) :=
    feedAll (replaySurroundings host) "" (Session.start debugger options) chunks (proxy, world)
  (printed, world)

/-! ## Breakpoints -/

/-- The lines that tell the breakpoints of a file. -/
def breakpointsText (file : Path) (breakpoints : Breakpoints) : String :=
  if breakpoints.entries.isEmpty then "No breakpoints in " ++ file.text ++ "\n"
  else
    let lines := breakpoints.entries.map fun entry =>
      "  " ++ Numeral.padLeft 5 entry.1 ++ "  " ++ ", ".intercalate entry.2 ++ "\n"
    "Breakpoints in " ++ file.text ++ ":\n" ++ String.join lines

/-- What the outcome of a query amounts to. A refusal of the debugger is no failure. -/
def queryOutcome (file : Path) : Except QueryFault Breakpoints → InvocationOutcome
  | .ok known => .success (breakpointsText file known)
  | .error (.reported message) =>
    .success ("Debugger refused to list breakpoints in " ++ file.text ++ ": " ++ message ++ "\n")
  | .error fault => .failure "" (.sideChannel fault.message)

/-! ## Scenarios -/

/-- Runs the scenario in a file. -/
def runScenario (host : Host World) (showNotes : Bool) (file : Path) :
    StateM World (Except Error ScenarioReport) := do
  return ((← host.textOf file).bind Scenario.read).map (Scenario.run showNotes)

/-- Runs the scenarios in files until one can not be read. Gives what is printed and
the names of those that failed. -/
def runScenarios (host : Host World) (showNotes : Bool) (printed : String)
    (failed : List String) : List Path → StateM World (String × Except Error (List String))
  | [] => return (printed, .ok failed)
  | file :: later => do
    match ← runScenario host showNotes file with
    | .error error => return (printed, .error error)
    | .ok report =>
      let failed := if report.passed then failed else failed ++ [report.name]
      runScenarios host showNotes (printed ++ report.printed) failed later

/-- What the run of some scenarios amounts to. -/
def scenariosOutcome (total : Nat) : String × Except Error (List String) → InvocationOutcome
  | (printed, .error error) => .failure printed error
  | (printed, .ok failed) =>
    let printed := printed ++ s!"{total - failed.length} passed, {failed.length} failed\n"
    if failed.isEmpty then .success printed
    else
      .failure printed
        (.expectation (s!"{failed.length} scenario(s) failed: " ++ ", ".intercalate failed))

/-! ## All invocations -/

/-- Does what the program is asked to do. The settings are in the file `settings`;
scenarios do not depend on them. -/
def run (host : Host World) (settings : Path) : Invocation → StateM World InvocationOutcome
  | .replay debugger transcript chunkSize base addressFile => do
    match ← Settings.load host settings with
    | .error error => return .failure "" error
    | .ok settings =>
      let options := settings.options host.workingDirectory debugger
      let options := { options with policy := base.elim options.policy .absolute }
      match ← host.bytesOf transcript with
      | .error error => return .failure "" error
      | .ok bytes =>
        let proxy := addressFile.map fun file => Proxy.new file settings.timeout
        let printed ← replayBytes host debugger options proxy (feedChunks chunkSize bytes)
        return .success printed
  | .translate debugger command arguments => do
    match ← Settings.load host settings with
    | .error error => return .failure "" error
    | .ok _ =>
      match debugger.format command arguments with
      | .error missing => return .failure "" (.missingArgument missing)
      | .ok line => return .success (line ++ "\n")
  | .breakpoints addressFile file timeout => do
    match ← Settings.load host settings with
    | .error error => return .failure "" error
    | .ok settings =>
      let proxy := Proxy.new addressFile (timeout.getD settings.timeout)
      fun world =>
        let ((outcome, _), _, world) :=
          (BreakpointStore.empty.query (Proxy.channel host) file).run (some proxy, world)
        (queryOutcome file outcome, world)
  | .test files showNotes => do
    return scenariosOutcome files.length (← runScenarios host showNotes "" [] files)

end Invocation

end DebugConsole
