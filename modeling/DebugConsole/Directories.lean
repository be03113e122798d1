import DebugConsole.Path.Basic

/-!
# Where settings and logs are kept

The directories of the program, as the environment of a user determines them. A
variable for settings or data counts only if it holds an absolute path; otherwise
the usual place below the user's home is taken.
-/

namespace DebugConsole

/-- What the directories depend on. -/
structure UserEnvironment where
  home : Option String
  configHome : Option String
  dataHome : Option String
  deriving Repr

namespace UserEnvironment

/-- The name of the program's own directories. -/
def applicationName : Path := ⟨"dbgscrape"⟩

/-- The user's home; the administrator's where none is set. -/
def homePath (environment : UserEnvironment) : Path :=
  match environment.home with
  | some home => if home.isEmpty then ⟨"/root"⟩ else ⟨home⟩
  | none => ⟨"/root"⟩

/-- A directory from a variable, or its usual place below the home. -/
def directory (environment : UserEnvironment) (value : Option String) (usual : Path) : Path :=
  match value with
  | some text => if Path.isAbsolute ⟨text⟩ then ⟨text⟩ else environment.homePath.join usual
  | none => environment.homePath.join usual

/-- The directory of the settings. -/
def configDirectory (environment : UserEnvironment) : Path :=
  (environment.directory environment.configHome ⟨".config"⟩).join applicationName

/-- The file of the settings. -/
def configFile (environment : UserEnvironment) : Path :=
  environment.configDirectory.join ⟨"config.toml"⟩

/-- The directory of the logs. -/
def logDirectory (environment : UserEnvironment) : Path :=
  ((environment.directory environment.dataHome ⟨".local/share"⟩).join applicationName).join
    ⟨"logs"⟩

end UserEnvironment

end DebugConsole
