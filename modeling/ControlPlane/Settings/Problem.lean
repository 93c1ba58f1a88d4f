import ControlPlane.Settings.Basic
import ControlPlane.Text.Characters

/-!
Problems of settings: values that can be read and make no sense.
-/

namespace ControlPlane

/-! ### Where the log goes -/

/-- The places that lines of the log go to. -/
structure LogDestinations where
  stdout : Bool := false
  stderr : Bool := false
  file : Bool := false
  deriving DecidableEq, Inhabited

/-- The places that a word names. -/
def LogDestinations.ofText? : String → Option LogDestinations
  | "stdout" => some { stdout := true }
  | "stderr" => some { stderr := true }
  | "file" => some { file := true }
  | "file+stderr" => some { stderr := true, file := true }
  | "both" => some { stdout := true, stderr := true }
  | _ => none

/-- Whether a word names a form of log lines. -/
def isLogFormat (s : String) : Bool := s == "json" || s == "text"

/-! ### Problems -/

/-- A value that makes no sense. -/
inductive SettingsProblem where
  | noServiceUrl
  | noWorkers
  | noTimeout
  | noResyncInterval
  | retryDelays (base max : UInt64)
  | logFormat (name : String)
  | logOutput (name : String)
  deriving DecidableEq, Inhabited

namespace SettingsProblem

/-- The words for a problem by itself. -/
def words : SettingsProblem → String
  | noServiceUrl => "pulsar.service_url must not be empty"
  | noWorkers => "controller.workers must be at least 1"
  | noTimeout => "controller.reconcile_timeout_secs must be positive"
  | noResyncInterval => "controller.resync_interval_secs must be positive"
  | retryDelays base max =>
    "controller.base_retry_delay_ms (" ++ toString base.toNat ++ ") exceeds max_retry_delay_ms (" ++
      toString max.toNat ++ ")"
  | logFormat name => "Invalid log format: " ++ name ++ " (must be 'json' or 'text')"
  | logOutput name =>
    "Invalid log output: " ++ name ++
      " (must be 'stdout', 'stderr', 'file', 'file+stderr', or 'both')"

/-- The words for a problem among others; those of the log are introduced once more. -/
def listed : SettingsProblem → String
  | p@(logFormat _) | p@(logOutput _) => "Configuration error: " ++ p.words
  | p => p.words

end SettingsProblem

namespace Settings

/-- The problems of settings, in the order in which they are told. -/
def problems (s : Settings) : List SettingsProblem :=
  let tell (holds : Bool) (p : SettingsProblem) : List SettingsProblem := if holds then [p] else []
  tell (Text.trim s.broker.serviceUrl).isEmpty .noServiceUrl ++
    tell (s.controller.workers == 0) .noWorkers ++
    tell (s.controller.reconcileTimeoutSecs == 0) .noTimeout ++
    tell (s.controller.resyncIntervalSecs == 0) .noResyncInterval ++
    tell (s.controller.maxRetryDelayMs < s.controller.baseRetryDelayMs)
      (.retryDelays s.controller.baseRetryDelayMs s.controller.maxRetryDelayMs) ++
    tell (!isLogFormat s.log.format) (.logFormat s.log.format) ++
    tell (LogDestinations.ofText? s.log.output).isNone (.logOutput s.log.output)

end Settings

end ControlPlane
