import ControlPlane.Record.Key
import ControlPlane.WorkQueue.Backoff

/-!
The work queue: keys that wait for a worker. A key that is added while it waits is not added again;
one that is added while a worker holds it becomes pending when the worker is done with it.
-/

namespace ControlPlane

/-- A set of keys. -/
abbrev KeySet := Dictionary RecordKey Unit

/-- Keys that wait, keys that are held, and how often keys have failed. -/
structure WorkQueue where
  backoff : Backoff
  /-- The keys that wait for a worker, the next one first. -/
  pending : List RecordKey := []
  /-- The keys that must be worked on: pending, or added while held. -/
  dirty : KeySet := ∅
  /-- The keys that a worker holds. -/
  processing : KeySet := ∅
  /-- The failures of a key since it was last forgotten. -/
  failures : Dictionary RecordKey Nat := ∅
  isShutDown : Bool := false
  deriving Inhabited

namespace WorkQueue

/-- The most failures that are counted. -/
def maxFailures : Nat := UInt32.size - 1

/-- Adds a key, unless it must be worked on already or the queue is shut down. -/
def add (q : WorkQueue) (key : RecordKey) : WorkQueue :=
  if q.isShutDown || q.dirty.contains key then q
  else
    let q := { q with dirty := q.dirty.insert key () }
    if q.processing.contains key then q else { q with pending := q.pending ++ [key] }

/-- Takes out the next key. -/
def take? (q : WorkQueue) : Option (RecordKey × WorkQueue) :=
  match q.pending with
  | [] => none
  | key :: rest => some (key, { q with
    pending := rest
    dirty := q.dirty.erase key
    processing := q.processing.insert key () })

/-- What a worker that asks for a key is given, unless it has to wait or the queue is shut down. -/
def get? (q : WorkQueue) : Option (RecordKey × WorkQueue) :=
  if q.isShutDown then none else q.take?

/-- Releases a key; one that must be worked on becomes pending. -/
def release (q : WorkQueue) (key : RecordKey) : WorkQueue :=
  { q with
    processing := q.processing.erase key
    pending := if q.dirty.contains key then q.pending ++ [key] else q.pending }

/-- The failures of a key. -/
def failuresOf (q : WorkQueue) (key : RecordKey) : Nat := (q.failures.find? key).getD 0

/-- Counts a failure of a key, and says after which delay the key is to be added again. -/
def fail (q : WorkQueue) (key : RecordKey) : Nat × WorkQueue :=
  let n := q.failuresOf key
  (q.backoff.delay n, { q with failures := q.failures.insert key (min (n + 1) maxFailures) })

/-- Forgets the failures of a key. -/
def forget (q : WorkQueue) (key : RecordKey) : WorkQueue :=
  { q with failures := q.failures.erase key }

/-- Shuts the queue down: no key is added or handed out any more. -/
def shutDown (q : WorkQueue) : WorkQueue := { q with isShutDown := true }

/-- How many keys wait, how many are held and how many have failed. -/
structure Stats where
  pending : Nat
  processing : Nat
  backingOff : Nat
  deriving DecidableEq, Inhabited

def stats (q : WorkQueue) : Stats := ⟨q.pending.length, q.processing.size, q.failures.size⟩

end WorkQueue

end ControlPlane
