import ControlPlane.Manifest.Directory
import ControlPlane.Settings.Error
import ControlPlane.Store.Error

/-!
Why a command fails, and how that is told at the end of the program.
-/

namespace ControlPlane

/-- Why a store cannot be opened at its place. -/
inductive OpeningFault where
  /-- The directory of the store cannot be made. -/
  | directory (path : String) (cause : FileFault)
  | file (cause : FileFault)
  /-- The file of the store does not hold records. -/
  | damaged
  deriving DecidableEq, Inhabited

/-- The words for a store that cannot be opened. -/
def OpeningFault.message : OpeningFault → String
  | directory path cause => "Failed to create store directory " ++ path ++ ": " ++ cause.message
  | file cause => "IO error: " ++ cause.message
  | damaged => "Read corrupted data"

/-- Why a command fails. -/
inductive ProgramError where
  | settings (cause : SettingsError)
  | unopened (path : String) (cause : OpeningFault)
  | manifest (cause : ManifestError)
  | store (cause : StoreError)
  /-- A report is asked for in a format that it does not have. -/
  | unknownFormat (format : String) (known : String × String)
  deriving DecidableEq, Inhabited

namespace ProgramError

/-- The words for a failure. -/
def message : ProgramError → String
  | settings cause => cause.message
  | unopened path cause =>
    "Configuration error: Failed to open store at " ++ path ++ ": " ++ cause.message
  | manifest cause => cause.message
  | store cause => cause.message
  | unknownFormat format known =>
    "Configuration error: Invalid output format: " ++ format ++ " (must be '" ++ known.1 ++
      "' or '" ++ known.2 ++ "')"

/-- The words for what lies behind a failure, if that is told beside it. -/
def cause? : ProgramError → Option String
  | settings cause => if cause.isCaused then some cause.words else none
  | manifest .notText => some "stream did not contain valid UTF-8"
  | store (.serialization cause) => some cause.message
  | _ => none

/-- The words for a failure, and behind them those for its cause. -/
def account (e : ProgramError) : String :=
  String.intercalate ": " (e.message :: e.cause?.toList)

end ProgramError

end ControlPlane
