import ControlPlane.Controller.Pass
import ControlPlane.Store.Basic
import ControlPlane.WorkQueue.Timed

/-!
The controller: a work queue of agents, a log of warnings and the invocations that workers have
begun. It acts on what it is told; the store is reached only through the routines of invocations.
-/

namespace ControlPlane

/-- The key of the agent that an announcement concerns: the agent itself, or the one whose name a
derived function bears as a label. -/
def Announcement.agentKey? (a : Announcement) : Option RecordKey :=
  let metadata := a.record.metadata
  match a.kind with
  | .agent => some metadata.key
  | .function =>
    (metadata.labels.find? Metadata.agentLabel).map fun name => ⟨metadata.namespace, name⟩
  | .package => none

/-- An invocation that a worker has begun. -/
structure Invocation where
  key : RecordKey
  /-- When its calls are given up, in milliseconds. -/
  deadline : Nat
  rest : Routine InvocationResult

/-- The state of a controller. -/
structure Controller where
  settings : ControllerSettings
  broker : BrokerSettings
  timed : TimedQueue
  log : WarningLog := {}
  /-- The invocations that wait for the store. -/
  waiting : List Invocation := []

namespace Controller

/-- The delays between the attempts at a failed key. -/
def backoffOf (s : ControllerSettings) : Backoff :=
  ⟨s.baseRetryDelayMs.toNat, s.maxRetryDelayMs.toNat⟩

/-- A controller with nothing to do. -/
def idle (settings : ControllerSettings) (broker : BrokerSettings) : Controller where
  settings
  broker
  timed := { queue := { backoff := backoffOf settings } }

def queue (c : Controller) : WorkQueue := c.timed.queue

/-- The time in milliseconds. -/
def now (c : Controller) : Nat := c.timed.now

/-- Adds keys to the queue. -/
def enqueue (c : Controller) (keys : List RecordKey) : Controller :=
  { c with timed := c.timed.modify (·.addAll keys) }

/-- Adds the agent that an announcement concerns. -/
def notice (c : Controller) (a : Announcement) : Controller := c.enqueue a.agentKey?.toList

/-- How long an invocation may take, in milliseconds. -/
def timeoutMs (c : Controller) : Nat := 1000 * c.settings.reconcileTimeoutSecs.toNat

/-- Begins the invocation of the next key, if a worker is free and the queue hands out a key. -/
def begin? (c : Controller) : Option (Invocation × Controller) := do
  guard (c.waiting.length < c.settings.workers.toNat)
  let (key, queue) ← c.queue.get?
  pure (⟨key, c.now + c.timeoutMs, (Reconciler.reconcile c.broker key).run⟩,
    { c with timed := { c.timed with queue } })

/-- Takes note of the outcome of an invocation: a success is forgotten about, a failure is counted
and tried again later. A lost race is no cause for a warning. -/
def note (c : Controller) (key : RecordKey) (result : InvocationResult) : Controller :=
  match result with
  | .ok _ => { c with timed := c.timed.modify (·.forget key), log := c.log.clear key }
  | .error e => { c with
    timed := (c.timed.addRateLimited key).2
    log := if e.isConflict then c.log else c.log.warn key e.reason e.message }

/-- Ends the invocation of a key. -/
def settle (c : Controller) (key : RecordKey) (result : InvocationResult) : Controller :=
  let c := c.note key result
  { c with timed := c.timed.modify (·.release key) }

/-- Lets an invocation wait for the store. -/
def hold (c : Controller) (i : Invocation) : Controller := { c with waiting := c.waiting ++ [i] }

/-- Shuts the queue down. -/
def shutDown (c : Controller) : Controller := { c with timed := c.timed.modify (·.shutDown) }

end Controller

end ControlPlane
