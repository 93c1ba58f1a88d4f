import ControlPlane.Settings.Problem
import ControlPlane.Settings.Reading

/-!
Why there are no settings to work with.
-/

namespace ControlPlane

/-- Why there are no settings to work with. -/
inductive SettingsError where
  /-- Settings were read, and have problems. -/
  | invalid (problems : List SettingsProblem)
  /-- There is no home directory to hold what is wanted. -/
  | homeless (wanted : String)
  /-- The file that was asked for is absent. -/
  | absent (path : String)
  /-- There is no file of a known format by a name. -/
  | unnamed (path : String)
  /-- The format of a file is not known. -/
  | unregistered (path : String)
  /-- A file is not written in its format. -/
  | unparsable (path : String)
  | fault (cause : SettingFault)
  deriving DecidableEq, Inhabited

namespace SettingsError

/-- The words of the cause. -/
def words : SettingsError → String
  | invalid problems => String.intercalate "; " (problems.map SettingsProblem.listed)
  | homeless wanted => "Could not determine " ++ wanted
  | absent path => "configuration property " ++ Text.quoted path ++ " not found"
  | unnamed path => "configuration file \"" ++ path ++ "\" not found"
  | unregistered path =>
    "configuration file \"" ++ path ++ "\" is not of a registered file format"
  | unparsable path => "malformed configuration in " ++ path
  | fault cause => cause.message

/-- The words for absent settings. -/
def message (e : SettingsError) : String := "Configuration error: " ++ e.words

/-- Whether the cause is told once more after the error. -/
def isCaused : SettingsError → Bool
  | invalid _ | homeless _ => false
  | _ => true

end SettingsError

/-- The settings, if they have no problems. -/
def Settings.validated (s : Settings) : Except SettingsError Settings :=
  match s.problems with
  | [] => .ok s
  | problems => .error (.invalid problems)

end ControlPlane
