import ControlPlane.Form.Basic

/-!
The settings of the program: the message broker, the controller, the store and the log.
-/

namespace ControlPlane

/-! ### The message broker -/

/-- How the message broker is reached. -/
structure BrokerSettings where
  serviceUrl : String := "pulsar://localhost:6650"
  authPlugin : String := ""
  authParams : String := ""
  deriving DecidableEq, Inhabited

namespace BrokerSettings

def schema : Schema BrokerSettings where
  name := "PulsarRpcConfig"
  start := {}
  fields := [
    .of "service_url" .preset .text (·.serviceUrl) fun s v => { s with serviceUrl := v },
    .of "auth_plugin" .preset .text (·.authPlugin) fun s v => { s with authPlugin := v },
    .of "auth_params" .preset .text (·.authParams) fun s v => { s with authParams := v }]

def form : Form BrokerSettings := schema.form

end BrokerSettings

/-! ### The controller -/

/-- How the controller works. -/
structure ControllerSettings where
  /-- How many keys are worked on at once. -/
  workers : UInt64 := 4
  /-- The delay before a failed key is tried again for the first time. -/
  baseRetryDelayMs : UInt64 := 5
  /-- The longest such delay. -/
  maxRetryDelayMs : UInt64 := 300000
  /-- How long one invocation may take. -/
  reconcileTimeoutSecs : UInt64 := 30
  /-- How often every agent is looked at again. -/
  resyncIntervalSecs : UInt64 := 300
  deriving DecidableEq, Inhabited

namespace ControllerSettings

def schema : Schema ControllerSettings where
  name := "ControllerConfig"
  start := {}
  fields := [
    .of "workers" .preset .size (·.workers) fun s v => { s with workers := v },
    .of "base_retry_delay_ms" .preset .count (·.baseRetryDelayMs)
      fun s v => { s with baseRetryDelayMs := v },
    .of "max_retry_delay_ms" .preset .count (·.maxRetryDelayMs)
      fun s v => { s with maxRetryDelayMs := v },
    .of "reconcile_timeout_secs" .preset .count (·.reconcileTimeoutSecs)
      fun s v => { s with reconcileTimeoutSecs := v },
    .of "resync_interval_secs" .preset .count (·.resyncIntervalSecs)
      fun s v => { s with resyncIntervalSecs := v }]

def form : Form ControllerSettings := schema.form

end ControllerSettings

/-! ### The store -/

/-- Where records are kept. -/
inductive StoreBackend where
  | memory
  | durable
  deriving DecidableEq, Inhabited

namespace StoreBackend

/-- The name of a backend. -/
def text : StoreBackend → String
  | memory => "memory"
  | durable => "sled"

def form : Form StoreBackend := .choice ([memory, durable].map fun b => (b.text, b)) text

end StoreBackend

/-- Where and how records are kept. -/
structure StoreSettings where
  backend : StoreBackend := .memory
  /-- The directory of a durable store. -/
  path : Option String := none
  deriving DecidableEq, Inhabited

namespace StoreSettings

def schema : Schema StoreSettings where
  name := "StoreConfig"
  start := {}
  fields := [
    .of "backend" .preset StoreBackend.form (·.backend) fun s v => { s with backend := v },
    .of "path" .preset (.option .path) (·.path) fun s v => { s with path := v }]

def form : Form StoreSettings := schema.form

end StoreSettings

/-! ### The log -/

/-- What is logged, and where to. -/
structure LogSettings where
  enabled : Bool := true
  level : String := "info"
  /-- How lines are written: `json` or `text`. -/
  format : String := "text"
  /-- Where lines go. -/
  output : String := "stderr"
  file : Option String := none
  color : Bool := true
  /-- The levels of single modules. -/
  modules : Dictionary String String := ∅
  deriving DecidableEq, Inhabited

namespace LogSettings

def schema : Schema LogSettings where
  name := "LoggingConfig"
  start := {}
  fields := [
    .of "enabled" .preset .flag (·.enabled) fun s v => { s with enabled := v },
    .of "level" .preset .text (·.level) fun s v => { s with level := v },
    .of "format" .preset .text (·.format) fun s v => { s with format := v },
    .of "output" .preset .text (·.output) fun s v => { s with output := v },
    .of "file" .preset (.option .path) (·.file) fun s v => { s with file := v },
    .of "color" .preset .flag (·.color) fun s v => { s with color := v },
    .of "modules" .preset (.dictionary .text) (·.modules) fun s v => { s with modules := v }]

def form : Form LogSettings := schema.form

end LogSettings

/-! ### All of them -/

/-- The settings of the program. -/
structure Settings where
  broker : BrokerSettings := {}
  controller : ControllerSettings := {}
  store : StoreSettings := {}
  log : LogSettings := {}
  deriving DecidableEq, Inhabited

namespace Settings

def schema : Schema Settings where
  name := "OperatorConfig"
  start := {}
  fields := [
    .of "pulsar" .preset BrokerSettings.form (·.broker) fun s v => { s with broker := v },
    .of "controller" .preset ControllerSettings.form (·.controller)
      fun s v => { s with controller := v },
    .of "store" .preset StoreSettings.form (·.store) fun s v => { s with store := v },
    .of "logging" .preset LogSettings.form (·.log) fun s v => { s with log := v }]

def form : Form Settings := schema.form

end Settings

end ControlPlane
