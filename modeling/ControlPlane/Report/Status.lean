import ControlPlane.Json.Printer
import ControlPlane.Record.Agent
import ControlPlane.Store.Client
import ControlPlane.Text.Table

/-!
The report on the agents of a namespace, or of all: what they ask for, whether they have a function,
and what is known of its execution.
-/

namespace ControlPlane

/-- What is told about an agent. -/
structure StatusEntry where
  key : RecordKey
  tools : Nat
  hasFunction : Bool
  status : FunctionStatus
  deriving DecidableEq, Inhabited

namespace StatusEntry

/-! ### Making it -/

/-- The keys of the functions that one of some agents owns. -/
def ownedKeys (agents : List AgentRecord) (functions : List FunctionRecord) : List RecordKey :=
  (functions.filter fun f => agents.any fun a => f.metadata.isOwnedBy a.metadata.uid).map
    RecordOf.key

/-- What is told about an agent, given the keys of the functions that are owned. -/
def ofAgent (owned : List RecordKey) (agent : AgentRecord) : StatusEntry where
  key := agent.key
  tools := agent.spec.tools.length
  hasFunction := owned.contains agent.key
  status := agent.status.functionStatus

/-- What is told about some agents, given all functions beside them. -/
def ofRecords (agents : List AgentRecord) (functions : List FunctionRecord) : List StatusEntry :=
  agents.map (ofAgent (ownedKeys agents functions))

/-- What is told about the agents of a namespace, or of all. -/
def collect (ns : Option String) : Attempt StoreError (List StatusEntry) := do
  let agents ← Client.list AgentSpec ns
  let functions ← Client.list FunctionSpec ns
  pure (ofRecords agents functions)

/-! ### Writing it -/

/-- An entry as it is written. -/
def toJson (e : StatusEntry) : Json :=
  .obj [("namespace", .str e.key.namespace), ("agent", .str e.key.name), ("tools", .nat e.tools),
    ("function", .bool e.hasFunction), ("replicas", .int e.status.replicas.toInt),
    ("ready_replicas", .int e.status.readyReplicas.toInt),
    ("available_replicas", .int e.status.availableReplicas.toInt)]

/-- The table of some entries. -/
def table (entries : List StatusEntry) : Table where
  header := ["Namespace", "Agent", "Tools", "Function", "Replicas", "Ready", "Available"]
  rows := entries.map fun e =>
    [e.key.namespace, e.key.name, toString e.tools, if e.hasFunction then "yes" else "-",
      toString e.status.replicas.toInt, toString e.status.readyReplicas.toInt,
      toString e.status.availableReplicas.toInt]

/-- The text of some entries in a format. -/
def render? (format : String) (entries : List StatusEntry) : Option String :=
  match format with
  | "json" => some (Json.arr (entries.map toJson)).pretty
  | "text" => some (if entries.isEmpty then "No agents found." else (table entries).render)
  | _ => none

end StatusEntry

end ControlPlane
