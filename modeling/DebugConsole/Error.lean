import DebugConsole.Debugger.Command

/-!
# Errors

Everything that a caller can be told to have failed, by cause. `Error.message` is
the only place where causes are put into words.
-/

namespace DebugConsole

/-- Why a file could not be read. -/
inductive FileFault where
  | missing
  | isDirectory
  | notUtf8
  deriving DecidableEq, Repr

/-- The wording of a fault. -/
def FileFault.message : FileFault → String
  | .missing => "No such file or directory (os error 2)"
  | .isDirectory => "Is a directory (os error 21)"
  | .notUtf8 => "stream did not contain valid UTF-8"

/-- What failed. What a reader has to say about a pattern, settings, JSON or YAML that it can
not read is not kept: only the kind of such a text is told. -/
inductive Error where
  | unknownDebugger (name : String)
  | badPattern
  | noRules (state : RunState)
  | badLocation (fault : Location.Fault)
  | missingArgument (missing : Debugger.MissingArgument)
  | terminal (reason : String)
  | sideChannel (reason : String)
  | badSettings (reason : String)
  | unreadableSettings
  | system (reason : String)
  | fileRead (path : Path) (fault : FileFault)
  | unreadableJson
  | unreadableYaml
  | expectation (reason : String)
  deriving DecidableEq, Repr

/-- The wording of an error. -/
def Error.message : Error → String
  | .unknownDebugger name =>
    s!"Unknown debugger backend '{name}'. Expected one of: gdb, lldb, pdb, bashdb"
  | .badPattern => "Invalid output pattern"
  | .noRules state =>
    "Transition table has no rules for reachable state '" ++ state.name ++ "'"
  | .badLocation fault => "Cannot decode source location: " ++ fault.message
  | .missingArgument ⟨command, expected, given⟩ =>
    s!"Command '{command}' expects at least {expected} argument(s), got {given}"
  | .terminal reason => "Terminal error: " ++ reason
  | .sideChannel reason => "Side channel error: " ++ reason
  | .badSettings reason => "Configuration error: " ++ reason
  | .unreadableSettings => "Invalid configuration file"
  | .system reason => "IO error: " ++ reason
  | .fileRead path fault => s!"Failed to read file '{path.text}': " ++ fault.message
  | .unreadableJson => "JSON error"
  | .unreadableYaml => "YAML error"
  | .expectation reason => "Test assertion failed: " ++ reason

end DebugConsole
