import DebugConsole.Directories
import DebugConsole.Invocation.Reader
import DebugConsole.Invocation.Run

/-!
# The program

Reads the arguments, the environment and the files that are asked for, does what is
asked, and prints the outcome. Datagrams can not be sent from here.
-/

namespace DebugConsole

/-- The files that an invocation may read. -/
def Invocation.files : Invocation → List Path
  | .replay _ transcript _ _ addressFile => transcript :: addressFile.toList
  | .translate _ _ _ => []
  | .breakpoints addressFile _ _ => [addressFile]
  | .test files _ => files

/-- The content of a file, or why it can not be read. -/
def readContent (path : Path) : IO (Except FileFault (List UInt8)) := do
  try
    return .ok (← IO.FS.readBinFile path.text).toList
  catch
    | .noFileOrDirectory _ _ _ => return .error .missing
    | _ => return .error .isDirectory

/-- A host with some files whose content is known. -/
def snapshotHost (workingDirectory : Path)
    (files : List (Path × Except FileFault (List UInt8))) : Host Unit where
  workingDirectory := workingDirectory
  content path := return ((files.find? (·.1 == path)).map (·.2)).getD (.error .missing)
  connect _ := return .error "Network is unreachable (os error 101)"
  send _ _ := return .error "Network is unreachable (os error 101)"
  receive _ _ := return .timeout

end DebugConsole

open DebugConsole in
/-- Does what the arguments ask for. -/
def main (arguments : List String) : IO UInt32 := do
  match Invocation.read arguments with
  | .error fault =>
    IO.eprintln ("usage: " ++ fault.message)
    return if fault = .help then 0 else 2
  | .ok invocation =>
    let environment : UserEnvironment :=
      ⟨← IO.getEnv "HOME", ← IO.getEnv "XDG_CONFIG_HOME", ← IO.getEnv "XDG_DATA_HOME"⟩
    let workingDirectory := (← IO.currentDir).toString
    let paths := environment.configFile :: invocation.files
    let files ← paths.mapM fun path => do return (path, ← readContent path)
    let host := snapshotHost ⟨workingDirectory⟩ files
    let outcome := ((invocation.run host environment.configFile).run ()).1
    IO.print outcome.printed
    match outcome.result with
    | .ok () => return 0
    | .error error =>
      IO.eprintln ("Error: " ++ error.message)
      return 1
