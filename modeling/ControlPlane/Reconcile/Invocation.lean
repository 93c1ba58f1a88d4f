import ControlPlane.Reconcile.Derivation

/-!
An invocation brings the function of one agent into agreement with the agent: it reads the agent,
composes the documents, writes the function if it differs, and copies the function's status to the
agent. A second invocation with nothing in between writes nothing.
-/

namespace ControlPlane

/-- What became of the function. -/
inductive FunctionAction where
  | created
  | updated
  | unchanged
  deriving DecidableEq, Inhabited

/-- The outcome of an invocation. -/
inductive Reconciled where
  /-- There is no such agent, and nothing to do. -/
  | agentNotFound
  | synced (function : FunctionAction) (statusUpdated : Bool)
  deriving DecidableEq, Inhabited

/-- The number of writes that an invocation made. -/
def Reconciled.writes : Reconciled → Nat
  | agentNotFound => 0
  | synced function statusUpdated =>
    (if function = .unchanged then 0 else 1) + (if statusUpdated then 1 else 0)

namespace Reconciler

/-- Puts the record under the control of an agent. -/
def control (agent : AgentRecord) (function : FunctionRecord) :
    Attempt ReconcileError FunctionRecord := do
  let metadata ← .ofExcept
    ((Metadata.setController .agent agent.metadata function.metadata).mapError
      ReconcileError.ownership)
  pure { function with metadata }

/-- Writes the function if it is absent or differs from the intended one. -/
def syncFunction (agent : AgentRecord) (intended : FunctionRecord) (key : RecordKey) :
    Attempt ReconcileError FunctionAction := do
  match ← (Client.get FunctionSpec key).result with
  | .ok stored =>
    let owned ← control agent stored
    if FunctionRecord.hasDrifted owned intended ||
        owned.metadata.ownerReferences != stored.metadata.ownerReferences then
      let _ ← (Client.update { owned with
        spec := intended.spec
        metadata := { owned.metadata with
          labels := intended.metadata.labels } }).mapError ReconcileError.store
      pure .updated
    else pure .unchanged
  | .error e =>
    if e.isNotFound then
      let _ ← (Client.create intended).mapError ReconcileError.store
      pure .created
    else throw (.store e)

/-- Copies the status of the function, read again, to the agent if they differ. -/
def syncStatus (agent : AgentRecord) (key : RecordKey) : Attempt ReconcileError Bool := do
  let observed ← (Client.get FunctionSpec key).mapError ReconcileError.store
  let status := AgentStatus.ofFunction observed.status
  if agent.status = status then pure false
  else
    let _ ← (Client.updateStatus { agent with status }).mapError ReconcileError.store
    pure true

/-- Brings the function of an agent that was read, and then the agent's status, into agreement. -/
def sync (broker : BrokerSettings) (key : RecordKey) (agent : AgentRecord) :
    Attempt ReconcileError Reconciled := do
  .ofExcept agent.spec.validate
  let config ← Documents.compose broker agent
  let intended ← control agent (FunctionRecord.derived agent config)
  let action ← syncFunction agent intended key
  let statusUpdated ← syncStatus agent key
  pure (.synced action statusUpdated)

/-- The invocation for a key. -/
def reconcile (broker : BrokerSettings) (key : RecordKey) : Attempt ReconcileError Reconciled := do
  match ← (Client.get AgentSpec key).result with
  | .error e => if e.isNotFound then pure .agentNotFound else throw (.store e)
  | .ok agent => sync broker key agent

end Reconciler

end ControlPlane
