import ControlPlane.WorkQueue.Basic

/-!
The work queue and its clock: alarms add keys at later times. Time passes only while someone
sleeps or waits for a key.
-/

namespace ControlPlane

/-- A key that is added at a time. -/
structure Alarm where
  due : Nat
  key : RecordKey
  deriving DecidableEq, Inhabited

namespace Alarm

/-- Puts an alarm behind those that are due no later. -/
def enqueue (a : Alarm) : List Alarm → List Alarm
  | [] => [a]
  | b :: rest => if b.due ≤ a.due then b :: enqueue a rest else a :: b :: rest

end Alarm

/-- A work queue, the time in milliseconds, and the alarms in the order in which they are due. -/
structure TimedQueue where
  queue : WorkQueue
  now : Nat := 0
  alarms : List Alarm := []
  deriving Inhabited

namespace TimedQueue

/-- Changes the queue at once. -/
def modify (t : TimedQueue) (f : WorkQueue → WorkQueue) : TimedQueue :=
  { t with queue := f t.queue }

/-- Adds a key after a delay; no delay is no wait. -/
def addAfter (t : TimedQueue) (key : RecordKey) (delay : Nat) : TimedQueue :=
  if delay = 0 then t.modify (·.add key)
  else { t with alarms := Alarm.enqueue ⟨t.now + delay, key⟩ t.alarms }

/-- Counts a failure of a key and adds it again after the delay that is answered. -/
def addRateLimited (t : TimedQueue) (key : RecordKey) : Nat × TimedQueue :=
  let (delay, queue) := t.queue.fail key
  (delay, { t with queue }.addAfter key delay)

/-- Lets time pass until a moment; the alarms that are due go off in their order. -/
def sleepUntil (t : TimedQueue) (time : Nat) : TimedQueue :=
  let (due, later) := t.alarms.partition (·.due ≤ time)
  { queue := due.foldl (fun q a => q.add a.key) t.queue
    now := max t.now time
    alarms := later }

/-- What waiting for a key ends with. -/
inductive Taken where
  | key (key : RecordKey)
  | shutDown
  /-- No key came in time. -/
  | waited
  deriving DecidableEq, Inhabited

/-- Takes a key as soon as there is one, alarm by alarm, but no later than a moment. -/
def takeUntil (limit : Nat) (queue : WorkQueue) (now : Nat) (alarms : List Alarm) :
    Taken × TimedQueue :=
  match queue.get? with
  | some (key, queue) => (.key key, ⟨queue, now, alarms⟩)
  | none =>
    if queue.isShutDown then (.shutDown, ⟨queue, now, alarms⟩)
    else
      match alarms with
      | [] => (.waited, ⟨queue, limit, []⟩)
      | a :: rest =>
        if a.due ≤ limit then takeUntil limit (queue.add a.key) (max now a.due) rest
        else (.waited, ⟨queue, limit, a :: rest⟩)

/-- Waits for a key, but not longer than a number of milliseconds. -/
def take (t : TimedQueue) (wait : Nat) : Taken × TimedQueue :=
  takeUntil (t.now + wait) t.queue t.now t.alarms

end TimedQueue

end ControlPlane
