import ControlPlane.Files.Path
import ControlPlane.Settings.Error

/-!
The places of files, as the variables of the environment and the settings give them.
-/

namespace ControlPlane

/-- The variables of the environment. -/
abbrev Variables := Dictionary String String

namespace Variables

/-- The name of the program, and of its directories. -/
def programName : String := "agent-operator"

/-- The directory that a variable names, or else one below the home directory. -/
def directory (environment : Variables) (name wanted below : String) :
    Except SettingsError String :=
  match environment.find? name, environment.find? "HOME" with
  | some path, _ => .ok path
  | none, some home => .ok (Path.join home below)
  | none, none => .error (.homeless (wanted ++ " (HOME not set)"))

/-- The directory of data. -/
def dataHome (environment : Variables) : Except SettingsError String :=
  environment.directory "XDG_DATA_HOME" "XDG data home directory" ".local/share"

/-- The directory of settings. -/
def configHome (environment : Variables) : Except SettingsError String :=
  environment.directory "XDG_CONFIG_HOME" "XDG config home directory" ".config"

/-- The file of settings that is read if it is there. -/
def settingsFile (environment : Variables) : Except SettingsError String :=
  environment.configHome.map fun home => Path.along home [programName, "config.toml"]

/-- The directory of a durable store that is given none. -/
def storeDirectory (environment : Variables) : Except SettingsError String :=
  environment.dataHome.map fun home => Path.along home [programName, "store"]

/-- The directory of what a program leaves behind; a relative one does not count. -/
def stateHome (environment : Variables) : Except SettingsError String :=
  match (environment.find? "XDG_STATE_HOME").filter Path.isAbsolute,
      (environment.find? "HOME").filter (!·.isEmpty) with
  | some path, _ => .ok path
  | none, some home => .ok (Path.join home ".local/state")
  | none, none => .error (.homeless "platform state directory for log file")

/-- The file of the log that is given none. -/
def defaultLogFile (environment : Variables) : Except SettingsError String :=
  environment.stateHome.map fun home => Path.along home [programName, "agent-operator.log"]

/-- The variable that names the file of the log. -/
def logFileVariable : String := "AGENT_OPERATOR_LOG_FILE"

/-- The file of the log: the one asked for, else the one a variable names, else that of the
settings; an empty path names none. -/
def logFile (environment : Variables) (asked configured : Option String) :
    Except SettingsError String :=
  match [asked, environment.find? logFileVariable, configured].findSome? fun path =>
      path.filter (!·.isEmpty) with
  | some path => .ok path
  | none => environment.defaultLogFile

end Variables

/-- The directory of a durable store: the one of the settings, or else the usual one. -/
def StoreSettings.directory (s : StoreSettings) (environment : Variables) :
    Except SettingsError String :=
  match s.path.filter (!·.isEmpty) with
  | some path => .ok path
  | none => environment.storeDirectory

end ControlPlane
