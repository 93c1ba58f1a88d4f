import ControlPlane.Controller.Pass
import ControlPlane.Json.Printer
import ControlPlane.Manifest.Application
import ControlPlane.Report.Timestamp
import ControlPlane.Yaml.Printer

/-!
The report on a pass over all agents: the functions of the agents that succeeded, and the latest
warnings of those that did not.
-/

namespace ControlPlane

/-- An agent with which a pass failed. -/
structure ReconciliationFailure where
  agent : String
  reason : String
  error : String
  /-- How often it failed so in a row. -/
  count : Nat
  lastSeen : String
  deriving DecidableEq, Inhabited

namespace ReconciliationFailure

/-- The latest warning of a key, seen at a time. -/
def ofWarning (time : Timestamp) (key : RecordKey) (w : Warning) : ReconciliationFailure where
  agent := key.text
  reason := w.reason
  error := w.message
  count := w.count
  lastSeen := time.full

/-- A failure as it is written. -/
def toJson (f : ReconciliationFailure) : Json :=
  .obj [("agent", .str f.agent), ("reason", .str f.reason), ("error", .str f.error),
    ("count", .nat f.count), ("last_seen", .str f.lastSeen)]

end ReconciliationFailure

/-- What a pass over all agents came to. -/
structure ReconciliationReport where
  functions : List FunctionRecord
  failures : List ReconciliationFailure
  deriving Inhabited

namespace ReconciliationReport

/-! ### Making it -/

/-- The keys of the agents whose functions were brought into agreement. -/
def syncedKeys (results : List (RecordKey × InvocationResult)) : List RecordKey :=
  results.filterMap fun r =>
    match r.2 with
    | .ok (.synced ..) => some r.1
    | _ => none

/-- The functions at keys. -/
def functionsAt : List RecordKey → Attempt StoreError (List FunctionRecord)
  | [] => pure []
  | key :: rest => do
    let function ← Client.get FunctionSpec key
    pure (function :: (← functionsAt rest))

/-- Applies manifests, makes a pass over all agents at a time, and reports. -/
def make (broker : BrokerSettings) (time : Timestamp) (manifests : List Manifest) :
    Attempt StoreError ReconciliationReport := do
  let _ ← Manifest.applyAll manifests
  let results ← Pass.reconcileAll broker
  let functions ← functionsAt (syncedKeys results)
  let outstanding := (WarningLog.noteAll {} results).outstanding
  pure ⟨functions, outstanding.map fun (key, w) => .ofWarning time key w⟩

/-! ### Writing it -/

/-- A report as it is written; a list of no failures is left out. -/
def toJson (r : ReconciliationReport) : Json :=
  .obj (("functions", .arr (r.functions.map (RecordOf.form.write .declared))) ::
    if r.failures.isEmpty then []
    else [("failures", .arr (r.failures.map ReconciliationFailure.toJson))])

/-- The text of a report in a format. -/
def render? (format : String) (r : ReconciliationReport) : Option String :=
  match format with
  | "json" => some r.toJson.pretty
  | "yaml" => some (Yaml.Printer.document r.toJson)
  | _ => none

end ReconciliationReport

end ControlPlane
