import ControlPlane.Files.System
import ControlPlane.Log.Directive
import ControlPlane.Settings.Places

/-!
The start of the log. Variables of the environment come before the settings; a log that goes to a
file opens that file, so a start changes the files or fails.
-/

namespace ControlPlane

/-- Why there is no log. -/
inductive LogError where
  /-- The level of a module makes no directive; a variable names it, or the settings do. -/
  | directive (ofVariable : Bool) (cause : DirectiveFault)
  | problem (cause : SettingsProblem)
  | homeless (cause : SettingsError)
  | directory (cause : FileFault)
  | file (path : String) (cause : FileFault)
  deriving DecidableEq, Inhabited

/-- The words for an absent log. -/
def LogError.message : LogError → String
  | directive false cause => "Configuration error: Invalid log directive: " ++ cause.message
  | directive true cause => "Configuration error: Invalid log directive from env: " ++ cause.message
  | problem cause => "Configuration error: " ++ cause.words
  | homeless cause => cause.message
  | directory cause => "Configuration error: Failed to create log directory: " ++ cause.message
  | file path cause =>
    "Configuration error: Failed to open log file " ++ Text.quoted path ++ ": " ++ cause.message

namespace LogSettings

/-! ### What is logged -/

/-- The variable that names what is logged. -/
def filterVariable : String := "AGENT_OPERATOR_LOG"

/-- The variable that names the levels of modules. -/
def modulesVariable : String := "AGENT_OPERATOR_LOG_MODULES"

/-- The directive that an entry of a variable makes, if it gives a module a level. -/
def directiveOf? (entry : String) : Option String :=
  match entry.splitOn "=" with
  | module :: level :: rest =>
    some (Text.trim module ++ "=" ++ Text.trim (String.intercalate "=" (level :: rest)))
  | _ => none

/-- Refuses directives of which one is none. -/
def checkAll (ofVariable : Bool) (directives : List String) : Except LogError Unit :=
  directives.forM fun d => (LogDirective.check d).mapError (.directive ofVariable)

/-- Refuses settings and variables that do not tell what is logged. A variable that tells it well
is enough; where the level is off, modules do not matter. -/
def checkFilter (s : LogSettings) (environment : Variables) : Except LogError Unit := do
  let told := (environment.find? filterVariable).any LogDirective.isList
  if told || s.level == "off" then pure ()
  else do
    checkAll false (s.modules.entries.map fun e => e.1 ++ "=" ++ e.2)
    let listed := ((environment.find? modulesVariable).map (·.splitOn ",")).getD []
    checkAll true (listed.filterMap directiveOf?)

/-! ### How and where it is logged -/

/-- The variable that names the form of lines. -/
def formatVariable : String := "AGENT_OPERATOR_LOG_FORMAT"

/-- The variable that names the places that lines go to. -/
def outputVariable : String := "AGENT_OPERATOR_LOG_OUTPUT"

/-- Refuses a form of lines that there is not; a variable that names one is enough. -/
def checkFormat (s : LogSettings) (environment : Variables) : Except LogError Unit :=
  if (environment.find? formatVariable).any isLogFormat || isLogFormat s.format then .ok ()
  else .error (.problem (.logFormat s.format))

/-- The places that lines go to. -/
def destinations (s : LogSettings) (environment : Variables) : Except LogError LogDestinations :=
  let name := (environment.find? outputVariable).getD s.output
  match LogDestinations.ofText? name with
  | some destinations => .ok destinations
  | none => .error (.problem (.logOutput name))

/-- Opens the file of the log, which is made, with its directories, if it is absent. -/
def openFile (s : LogSettings) (environment : Variables) (files : FileSystem) :
    Except LogError FileSystem := do
  let path ← (environment.logFile none s.file).mapError .homeless
  let files ← (files.makeDirectories ((Path.parent? path).getD "")).mapError .directory
  (files.append path).mapError (.file path)

/-- Starts the log. -/
def start (s : LogSettings) (environment : Variables) (files : FileSystem) :
    Except LogError FileSystem := do
  if !s.enabled then pure files
  else do
    s.checkFilter environment
    s.checkFormat environment
    let destinations ← s.destinations environment
    if destinations.file then s.openFile environment files else pure files

end LogSettings

end ControlPlane
