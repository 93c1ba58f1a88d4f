import ControlPlane.Reconcile.Invocation
import ControlPlane.WarningLog
import ControlPlane.WorkQueue.Basic

/-!
Passes over all agents: one adds every agent to the work queue, the other makes one invocation for
each agent and remembers its failure.
-/

namespace ControlPlane

/-- What an invocation ended with. -/
abbrev InvocationResult := Except ReconcileError Reconciled

namespace Pass

/-- The keys of all agents, in key order. -/
def agentKeys : Attempt StoreError (List RecordKey) := do
  pure ((← Client.list AgentSpec none).map RecordOf.key)

/-- Makes the invocations for keys, one after another. -/
def reconcileEach (broker : BrokerSettings) :
    List RecordKey → Attempt StoreError (List (RecordKey × InvocationResult))
  | [] => pure []
  | key :: rest => do
    let result ← (Reconciler.reconcile broker key).result
    pure ((key, result) :: (← reconcileEach broker rest))

/-- Makes one invocation for every agent, in key order. -/
def reconcileAll (broker : BrokerSettings) :
    Attempt StoreError (List (RecordKey × InvocationResult)) := do
  reconcileEach broker (← agentKeys)

end Pass

/-- Remembers the outcome of an invocation: a failure is recorded, a success clears the key. -/
def WarningLog.note (l : WarningLog) (key : RecordKey) : InvocationResult → WarningLog
  | .ok _ => l.clear key
  | .error e => l.warn key e.reason e.message

/-- Remembers the outcomes of a pass. -/
def WarningLog.noteAll (l : WarningLog) (results : List (RecordKey × InvocationResult)) :
    WarningLog :=
  results.foldl (fun l r => l.note r.1 r.2) l

/-- Adds keys in their order. -/
def WorkQueue.addAll (q : WorkQueue) (keys : List RecordKey) : WorkQueue :=
  keys.foldl WorkQueue.add q

end ControlPlane
