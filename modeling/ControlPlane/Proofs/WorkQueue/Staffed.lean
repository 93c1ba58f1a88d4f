import ControlPlane.Proofs.WorkQueue.Discipline
import Mathlib.Data.List.DropRight

/-!
A work queue and its workers, one call after another. A worker that is handed a key holds it until
it is done with it; an alarm may go off at any time after it was set, in any order, and a queue that
is shut down still takes its keys back. A run is read in three ways: as the state that it leaves
(`StaffedQueue.after`), as what happened to its keys (`StaffedQueue.events`) and as the keys that
became pending (`StaffedQueue.entered`). What a call can do to the queue is said once, by
`StaffedQueue.step_effect`.
-/

namespace ControlPlane

namespace WorkQueue

/-- The queue as if it were not shut down. -/
def opened (q : WorkQueue) : WorkQueue := { q with isShutDown := false }

/-- Two queues have the same keys waiting and held. -/
structure Alike (q q' : WorkQueue) : Prop where
  pending : q'.pending = q.pending
  dirty : q'.dirty = q.dirty
  processing : q'.processing = q.processing

theorem Alike.rfl {q : WorkQueue} : q.Alike q := ⟨Eq.refl _, Eq.refl _, Eq.refl _⟩

theorem Disciplined.alike {q q' : WorkQueue} {held : List RecordKey}
    (h : q.opened.Disciplined held) (alike : q.Alike q') : q'.opened.Disciplined held := by
  obtain ⟨pending, dirty, processing⟩ := alike
  have eq : q'.opened = { q.opened with backoff := q'.backoff, failures := q'.failures } := by
    simp only [opened, pending, dirty, processing]
  rw [eq]
  exact { h with }

theorem opened_of_open {q : WorkQueue} (isOpen : q.isShutDown = false) : q.opened = q := by
  cases q
  subst isOpen
  rfl

theorem add_of_shutDown {q : WorkQueue} (shut : q.isShutDown = true) (key : RecordKey) :
    q.add key = q := by
  simp [add, shut]

/-- That a failure was counted makes no difference to an addition. -/
theorem alike_add_fail (q : WorkQueue) (key : RecordKey) :
    (q.add key).Alike ((q.fail key).2.add key) := by
  have eq : (q.fail key).2.add key = { q.add key with failures := (q.fail key).2.failures } := by
    unfold add fail
    by_cases kept : (q.isShutDown || q.dirty.contains key) = true
    · simp [kept]
    · by_cases isHeld : q.processing.contains key = true <;> simp [kept, isHeld]
  rw [eq]
  exact ⟨rfl, rfl, rfl⟩

end WorkQueue

/-- The queue after one of its alarms went off. -/
def TimedQueue.goOff (t : TimedQueue) (n : Nat) : TimedQueue :=
  match t.alarms[n]? with
  | some a => { t with queue := t.queue.add a.key, alarms := t.alarms.eraseIdx n }
  | none => t

/-! ### Runs -/

/-- A call on a work queue, or an alarm that goes off. -/
inductive QueueMove (ι : Type) where
  | add (key : RecordKey)
  | addAfter (key : RecordKey) (delay : Nat)
  | addRateLimited (key : RecordKey)
  | alarm (n : Nat)
  | get (worker : ι)
  | done (worker : ι) (key : RecordKey)
  | forget (key : RecordKey)
  | shutDown
  /-- Time passes. -/
  | wait (now : Nat)

/-- What happens to a key. -/
inductive QueueEvent (ι : Type) where
  /-- The key was added, and the queue did not refuse it. -/
  | added (key : RecordKey)
  | handedOut (worker : ι) (key : RecordKey)

namespace QueueEvent

variable {ι : Type}

/-- The key that is handed out. -/
def handed? : QueueEvent ι → Option RecordKey
  | added _ => none
  | handedOut _ key => some key

/-- What happened since a key was last handed out, or at all if it never was. -/
def since (key : RecordKey) (history : List (QueueEvent ι)) : List (QueueEvent ι) :=
  history.rtakeWhile fun e => e.handed? != some key

/-- The keys that were handed out, in order. -/
def handedKeys (history : List (QueueEvent ι)) : List RecordKey := history.filterMap handed?

variable {key k : RecordKey} {worker : ι} {history : List (QueueEvent ι)}

theorem since_added : since k (history ++ [added key]) = since k history ++ [added key] :=
  List.rtakeWhile_concat_pos _ _ _ rfl

theorem since_handedOut_self : since key (history ++ [handedOut worker key]) = [] :=
  List.rtakeWhile_concat_neg _ _ _ (by simp [handed?])

theorem since_handedOut_of_ne (ne : k ≠ key) :
    since k (history ++ [handedOut worker key]) = since k history ++ [handedOut worker key] :=
  List.rtakeWhile_concat_pos _ _ _ (by simpa [handed?] using ne.symm)

/-- A key that was added is handed out later, or was added since it was last handed out. -/
theorem mem_since_of_added (before later : List (QueueEvent ι))
    (unserved : ∀ w, handedOut w k ∉ later) :
    added k ∈ since k (before ++ added k :: later) := by
  induction later using List.reverseRecOn with
  | nil =>
    rw [since_added]
    exact List.mem_append_right _ (List.mem_singleton_self _)
  | append_singleton rest e ih =>
    have old := ih fun w mem => unserved w (List.mem_append_left _ mem)
    have split : before ++ added k :: (rest ++ [e]) = (before ++ added k :: rest) ++ [e] := by simp
    rw [split]
    cases e with
    | added key =>
      rw [since_added]
      exact List.mem_append_left _ old
    | handedOut w key =>
      have ne : k ≠ key := by
        rintro rfl
        exact unserved w (List.mem_append_right _ (List.mem_singleton_self _))
      rw [since_handedOut_of_ne ne]
      exact List.mem_append_left _ old

end QueueEvent

/-- A work queue with its alarms, and which worker holds which key. -/
structure StaffedQueue (ι : Type) where
  timed : TimedQueue
  holds : List (ι × RecordKey) := []

namespace StaffedQueue

variable {ι : Type}

/-- A new queue, of which nobody holds a key. -/
def new (backoff : Backoff) : StaffedQueue ι := { timed := { queue := { backoff } } }

def queue (s : StaffedQueue ι) : WorkQueue := s.timed.queue

/-- The keys that are held. -/
def held (s : StaffedQueue ι) : List RecordKey := s.holds.map Prod.snd

/-- The same workers beside another queue. -/
def withTimed (s : StaffedQueue ι) (timed : TimedQueue) : StaffedQueue ι := { s with timed }

/-- What happens to a key that is added. -/
def accepted? (s : StaffedQueue ι) (key : RecordKey) : Option (QueueEvent ι) :=
  if s.queue.isShutDown then none else some (.added key)

/-- What happens to a key by a move. -/
def event? (s : StaffedQueue ι) : QueueMove ι → Option (QueueEvent ι)
  | .add key => s.accepted? key
  | .addAfter key delay => if delay = 0 then s.accepted? key else none
  | .addRateLimited key =>
    if (s.timed.addRateLimited key).1 = 0 then s.accepted? key else none
  | .alarm n => s.timed.alarms[n]?.bind fun a => s.accepted? a.key
  | .get worker => s.queue.get?.map fun (key, _) => .handedOut worker key
  | .done .. => none
  | .forget _ => none
  | .shutDown => none
  | .wait _ => none

variable [DecidableEq ι]

/-- The queue after a move. Only the worker that holds a key can be done with it. -/
def step (s : StaffedQueue ι) : QueueMove ι → StaffedQueue ι
  | .add key => s.withTimed (s.timed.modify (·.add key))
  | .addAfter key delay => s.withTimed (s.timed.addAfter key delay)
  | .addRateLimited key => s.withTimed (s.timed.addRateLimited key).2
  | .alarm n => s.withTimed (s.timed.goOff n)
  | .get worker =>
    match s.queue.get? with
    | some (key, queue) => ⟨{ s.timed with queue }, (worker, key) :: s.holds⟩
    | none => s
  | .done worker key =>
    if (worker, key) ∈ s.holds then
      ⟨s.timed.modify (·.release key), s.holds.erase (worker, key)⟩
    else s
  | .forget key => s.withTimed (s.timed.modify (·.forget key))
  | .shutDown => s.withTimed (s.timed.modify (·.shutDown))
  | .wait now => s.withTimed { s.timed with now }

/-- The queue after moves. -/
def after (s : StaffedQueue ι) (moves : List (QueueMove ι)) : StaffedQueue ι :=
  moves.foldl step s

/-- What happens to keys by moves, in order. -/
def events (s : StaffedQueue ι) : List (QueueMove ι) → List (QueueEvent ι)
  | [] => []
  | m :: rest => (s.event? m).toList ++ (s.step m).events rest

/-- The keys that become pending by moves, in order. -/
def entered (s : StaffedQueue ι) : List (QueueMove ι) → List RecordKey
  | [] => []
  | m :: rest =>
    (s.step m).queue.pending.filter (· ∉ s.queue.pending) ++ (s.step m).entered rest

variable {s : StaffedQueue ι} {moves later : List (QueueMove ι)} {m : QueueMove ι}

theorem after_append : s.after (moves ++ later) = (s.after moves).after later := by
  simp [after]

theorem after_concat : s.after (moves ++ [m]) = (s.after moves).step m := by
  simp [after]

theorem events_append :
    s.events (moves ++ later) = s.events moves ++ (s.after moves).events later := by
  induction moves generalizing s with
  | nil => rfl
  | cons m rest ih =>
    have tail := ih (s := s.step m)
    simp only [List.cons_append, events, tail, List.append_assoc]
    rfl

theorem events_concat :
    s.events (moves ++ [m]) = s.events moves ++ ((s.after moves).event? m).toList := by
  simp [events_append, events]

/-! ### What a move does -/

/-- What a move did to the queue, with what happened to a key by it. -/
inductive Effect (s : StaffedQueue ι) : Option (QueueEvent ι) → StaffedQueue ι → Prop where
  | quiet {s' : StaffedQueue ι} (alike : s.queue.Alike s'.queue) (holds : s'.holds = s.holds) :
      Effect s none s'
  | added {s' : StaffedQueue ι} (key : RecordKey) (isOpen : s.queue.isShutDown = false)
      (alike : (s.queue.add key).Alike s'.queue) (holds : s'.holds = s.holds) :
      Effect s (some (.added key)) s'
  | handedOut {s' : StaffedQueue ι} (worker : ι) (key : RecordKey)
      (isOpen : s.queue.isShutDown = false) (taken : s.queue.take? = some (key, s'.queue))
      (holds : s'.holds = (worker, key) :: s.holds) : Effect s (some (.handedOut worker key)) s'
  | released {s' : StaffedQueue ι} (worker : ι) (key : RecordKey)
      (mem : (worker, key) ∈ s.holds) (queue : s'.queue = s.queue.release key)
      (holds : s'.holds = s.holds.erase (worker, key)) : Effect s none s'

/-- A key that is added is accepted, or nothing happens. -/
theorem effect_add {s' : StaffedQueue ι} {key : RecordKey}
    (alike : (s.queue.add key).Alike s'.queue) (holds : s'.holds = s.holds) :
    Effect s (s.accepted? key) s' := by
  unfold accepted?
  split
  · rename_i shut
    rw [WorkQueue.add_of_shutDown shut] at alike
    exact .quiet alike holds
  · rename_i isOpen
    exact .added key (Bool.eq_false_iff.mpr isOpen) alike holds

theorem step_effect (s : StaffedQueue ι) (m : QueueMove ι) : Effect s (s.event? m) (s.step m) := by
  cases m with
  | add key => exact effect_add .rfl rfl
  | addAfter key delay =>
    simp only [event?, step, TimedQueue.addAfter]
    split
    · exact effect_add .rfl rfl
    · exact .quiet .rfl rfl
  | addRateLimited key =>
    simp only [event?, step, TimedQueue.addRateLimited, TimedQueue.addAfter]
    split
    · exact effect_add (s.queue.alike_add_fail key) rfl
    · exact .quiet ⟨rfl, rfl, rfl⟩ rfl
  | alarm n =>
    simp only [event?, step, TimedQueue.goOff]
    cases s.timed.alarms[n]? with
    | none => exact .quiet .rfl rfl
    | some a => exact effect_add .rfl rfl
  | get worker =>
    simp only [event?, step]
    split
    · rename_i key queue given
      obtain ⟨isOpen, taken⟩ := WorkQueue.get?_eq_some_iff.mp given
      rw [given]
      exact .handedOut worker key isOpen taken rfl
    · rename_i waits
      rw [waits]
      exact .quiet .rfl rfl
  | done worker key =>
    simp only [event?, step]
    split
    · rename_i mem
      exact .released worker key mem rfl rfl
    · exact .quiet .rfl rfl
  | forget key => exact .quiet ⟨rfl, rfl, rfl⟩ rfl
  | shutDown => exact .quiet ⟨rfl, rfl, rfl⟩ rfl
  | wait now => exact .quiet .rfl rfl

/-! ### Waiting for a key -/

/-- Waiting for a key by the clock is a run: alarms go off and time passes until the worker is
handed a key or stops waiting. -/
theorem after_takeUntil (limit : Nat) (queue : WorkQueue) (now : Nat) (alarms : List Alarm)
    (holds : List (ι × RecordKey)) (worker : ι) :
    let (taken, timed) := TimedQueue.takeUntil limit queue now alarms
    ∃ moves, (⟨⟨queue, now, alarms⟩, holds⟩ : StaffedQueue ι).after moves =
      ⟨timed, match taken with
        | .key key => (worker, key) :: holds
        | _ => holds⟩ := by
  fun_induction TimedQueue.takeUntil limit queue now alarms with
  | case1 alarms queue now key left given =>
    refine ⟨[.get worker], ?_⟩
    simp [after, step, StaffedQueue.queue, given]
  | case2 alarms queue now waits shut => exact ⟨[], rfl⟩
  | case3 queue now waits isOpen => exact ⟨[.wait limit], rfl⟩
  | case4 queue now waits isOpen a rest due ih =>
    obtain ⟨moves, eq⟩ := ih
    exact ⟨.alarm 0 :: .wait (max now a.due) :: moves, eq⟩
  | case5 queue now waits isOpen a rest notDue => exact ⟨[.wait limit], rfl⟩

end StaffedQueue

end ControlPlane
