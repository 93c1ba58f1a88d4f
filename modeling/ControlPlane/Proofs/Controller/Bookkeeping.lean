import ControlPlane.Proofs.Controller.Delivery
import ControlPlane.Proofs.WarningLog
import ControlPlane.Proofs.WorkQueue.Staffed

/-!
The books of a controller. However the invocations of its keys end and whatever its queue does
meanwhile, the failures that are counted of a key are those since it last succeeded, the warnings
that are kept of it are what recording the ones among them that are no lost race gives, and every
failure has the key added again exactly once, after the delay for the failures before it
(`Controller.bookkeeping`). Only an outcome that is taken note of writes in the books
(`Controller.turn_unnoted`).
-/

namespace ControlPlane

/-! ### Counts and warnings -/

namespace WorkQueue

variable {q : WorkQueue} {key k : RecordKey}

theorem failures_add : (q.add key).failures = q.failures := by
  simp only [add]
  split
  · rfl
  · split <;> rfl

theorem backoff_add : (q.add key).backoff = q.backoff := by
  simp only [add]
  split
  · rfl
  · split <;> rfl

theorem failuresOf_forget_self : (q.forget key).failuresOf key = 0 := by
  simp [failuresOf, forget, Dictionary.find?_erase_self]

theorem failuresOf_forget_of_ne (ne : k ≠ key) : (q.forget key).failuresOf k = q.failuresOf k := by
  simp [failuresOf, forget, Dictionary.find?_erase_of_ne _ ne]

theorem failuresOf_fail_self :
    (q.fail key).2.failuresOf key = min (q.failuresOf key + 1) maxFailures := by
  simp [failuresOf, fail, Dictionary.find?_insert_self]

theorem failuresOf_fail_of_ne (ne : k ≠ key) : (q.fail key).2.failuresOf k = q.failuresOf k := by
  simp [failuresOf, fail, Dictionary.find?_insert_of_ne _ _ ne]

end WorkQueue

namespace WarningLog

/-- A log in which failures of a key are recorded, one after another. -/
def ofFailures (key : RecordKey) (errors : List ReconcileError) : WarningLog :=
  errors.foldl (fun l e => l.warn key e.reason e.message) {}

theorem ofFailures_concat (key : RecordKey) (errors : List ReconcileError) (e : ReconcileError) :
    ofFailures key (errors ++ [e]) = (ofFailures key errors).warn key e.reason e.message := by
  simp [ofFailures]

theorem capacity_ofFailures (key : RecordKey) (errors : List ReconcileError) :
    (ofFailures key errors).capacity = ({} : WarningLog).capacity := by
  induction errors using List.reverseRecOn with
  | nil => rfl
  | append_singleton rest e ih =>
    rw [ofFailures_concat]
    exact ih

/-- There are warnings as soon as one failure was recorded. -/
theorem warnings_ofFailures_ne_nil_iff {errors : List ReconcileError} :
    (ofFailures key errors).warnings key ≠ [] ↔ errors ≠ [] := by
  cases errors using List.reverseRecOn with
  | nil => simp [ofFailures, warnings]; rfl
  | append_singleton rest e =>
    rw [ofFailures_concat, warnings_warn_self]
    simp [Warning.record_ne_nil]

end WarningLog

/-! ### Alarms -/

theorem Alarm.enqueue_perm (a : Alarm) (alarms : List Alarm) :
    (a.enqueue alarms).Perm (a :: alarms) := by
  induction alarms with
  | nil => exact .refl _
  | cons b rest ih =>
    rw [enqueue]
    split
    · exact (ih.cons b).trans (.swap ..)
    · exact .refl _

/-- A key was added again after a delay, and nothing else was: at once if there is no delay, and
else by one alarm. -/
inductive TimedQueue.AddsAgain (t : TimedQueue) (key : RecordKey) (delay : Nat) :
    TimedQueue → Prop where
  | atOnce {t' : TimedQueue} (noDelay : delay = 0) (queue : (t.queue.add key).Alike t'.queue)
      (alarms : t'.alarms = t.alarms) : AddsAgain t key delay t'
  | later {t' : TimedQueue} (some : delay ≠ 0) (queue : t.queue.Alike t'.queue)
      (alarms : t'.alarms.Perm (⟨t.now + delay, key⟩ :: t.alarms)) : AddsAgain t key delay t'

theorem TimedQueue.addsAgain_addRateLimited (t : TimedQueue) (key : RecordKey) :
    t.AddsAgain key (t.queue.backoff.delay (t.queue.failuresOf key)) (t.addRateLimited key).2 := by
  simp only [addRateLimited, addAfter]
  split
  · rename_i none
    exact .atOnce none (t.queue.alike_add_fail key) rfl
  · rename_i some
    exact .later some ⟨rfl, rfl, rfl⟩ (Alarm.enqueue_perm ..)

namespace Controller

/-! ### Runs -/

/-- What a controller does next, whatever its invocations call meanwhile. -/
inductive Turn where
  | enqueue (keys : List RecordKey)
  | begin
  /-- An invocation of a key ends. -/
  | note (key : RecordKey) (result : InvocationResult)
  | release (key : RecordKey)
  | alarm (n : Nat)
  | wait (now : Nat)
  | shutDown

/-- The controller after a turn. -/
def turn (c : Controller) : Turn → Controller
  | .enqueue keys => c.enqueue keys
  | .begin =>
    match c.begin? with
    | some (i, c) => c.hold i
    | none => c
  | .note key result =>
    { c.note key result with waiting := c.waiting.eraseP (·.key = key) }
  | .release key => { c with timed := c.timed.modify (·.release key) }
  | .alarm n => { c with timed := c.timed.goOff n }
  | .wait now => { c with timed := { c.timed with now } }
  | .shutDown => c.shutDown

/-- The controller after turns. -/
def after (c : Controller) (turns : List Turn) : Controller := turns.foldl turn c

/-- The outcome that a key has by a turn. -/
def Turn.outcome? (k : RecordKey) : Turn → Option InvocationResult
  | .note key result => if key = k then some result else none
  | _ => none

/-- The failures of a key since it last succeeded, in order. -/
def failuresSince (k : RecordKey) (turns : List Turn) : List ReconcileError :=
  ((turns.filterMap (Turn.outcome? k)).rtakeWhile fun r => !r.isOk).filterMap fun
    | .error e => some e
    | .ok _ => none

variable {c c' : Controller} {turns : List Turn} {t : Turn} {key k : RecordKey}

theorem after_concat : c.after (turns ++ [t]) = (c.after turns).turn t := by
  simp [after]

theorem failuresSince_concat_of_none (none : t.outcome? k = none) :
    failuresSince k (turns ++ [t]) = failuresSince k turns := by
  simp [failuresSince, none]

theorem failuresSince_note_of_ne {result : InvocationResult} (ne : k ≠ key) :
    failuresSince k (turns ++ [.note key result]) = failuresSince k turns :=
  failuresSince_concat_of_none (if_neg ne.symm)

theorem failuresSince_note_ok {r : Reconciled} :
    failuresSince key (turns ++ [.note key (.ok r)]) = [] := by
  have last : (turns ++ [Turn.note key (.ok r)]).filterMap (Turn.outcome? key) =
      turns.filterMap (Turn.outcome? key) ++ [.ok r] := by simp [Turn.outcome?]
  rw [failuresSince, last, List.rtakeWhile_concat_neg _ _ _ (by simp [Except.isOk, Except.toBool])]
  rfl

theorem failuresSince_note_error {e : ReconcileError} :
    failuresSince key (turns ++ [.note key (.error e)]) = failuresSince key turns ++ [e] := by
  have last : (turns ++ [Turn.note key (.error e)]).filterMap (Turn.outcome? key) =
      turns.filterMap (Turn.outcome? key) ++ [.error e] := by simp [Turn.outcome?]
  rw [failuresSince, last, List.rtakeWhile_concat_pos _ _ _ rfl]
  simp [failuresSince]

/-! ### The books -/

/-- Nothing was written in the books. -/
structure Unnoted (c c' : Controller) : Prop where
  failures : c'.queue.failures = c.queue.failures
  backoff : c'.queue.backoff = c.queue.backoff
  log : c'.log = c.log

theorem Unnoted.addAll (keys : List RecordKey) (q : WorkQueue) :
    (q.addAll keys).failures = q.failures ∧ (q.addAll keys).backoff = q.backoff := by
  induction keys generalizing q with
  | nil => exact ⟨rfl, rfl⟩
  | cons key rest ih =>
    obtain ⟨failures, backoff⟩ := ih (q.add key)
    exact ⟨failures.trans WorkQueue.failures_add, backoff.trans WorkQueue.backoff_add⟩

/-- Only a turn that takes note of an outcome writes in the books. -/
theorem turn_unnoted (c : Controller) (t : Turn) (none : ∀ k, t.outcome? k = none) :
    c.Unnoted (c.turn t) := by
  cases t with
  | note key result => simpa [Turn.outcome?] using none key
  | enqueue keys =>
    obtain ⟨failures, backoff⟩ := Unnoted.addAll keys c.queue
    exact ⟨failures, backoff, rfl⟩
  | begin =>
    simp only [turn]
    split
    · rename_i i c' begun
      obtain ⟨-, key, queue, given, -, rfl⟩ := begin?_eq_some_iff.mp begun
      obtain ⟨rest, -, rfl⟩ :=
        WorkQueue.take?_eq_some_iff.mp (WorkQueue.get?_eq_some_iff.mp given).2
      exact ⟨rfl, rfl, rfl⟩
    · exact ⟨rfl, rfl, rfl⟩
  | release key => exact ⟨rfl, rfl, rfl⟩
  | alarm n =>
    simp only [turn, TimedQueue.goOff]
    split
    · exact ⟨WorkQueue.failures_add, WorkQueue.backoff_add, rfl⟩
    · exact ⟨rfl, rfl, rfl⟩
  | wait now => exact ⟨rfl, rfl, rfl⟩
  | shutDown => exact ⟨rfl, rfl, rfl⟩

/-- What is counted and kept of every key follows from its outcomes. -/
structure Booked (c : Controller) (settings : ControllerSettings) (turns : List Turn) : Prop where
  backoff : c.queue.backoff = backoffOf settings
  capacity : c.log.capacity = ({} : WarningLog).capacity
  failures : ∀ k, c.queue.failuresOf k = min (failuresSince k turns).length WorkQueue.maxFailures
  warnings : ∀ k, c.log.warnings k =
    (WarningLog.ofFailures k ((failuresSince k turns).filter (!·.isConflict))).warnings k

theorem booked_idle (settings : ControllerSettings) (broker : BrokerSettings) :
    (idle settings broker).Booked settings [] where
  backoff := rfl
  capacity := rfl
  failures _ := rfl
  warnings _ := rfl

variable {settings : ControllerSettings}

theorem Booked.unnoted (booked : c.Booked settings turns) (unnoted : c.Unnoted c')
    (none : ∀ k, t.outcome? k = none) : c'.Booked settings (turns ++ [t]) where
  backoff := unnoted.backoff.trans booked.backoff
  capacity := by
    rw [unnoted.log]
    exact booked.capacity
  failures k := by
    rw [failuresSince_concat_of_none (none k), ← booked.failures k, WorkQueue.failuresOf,
      unnoted.failures]
    rfl
  warnings k := by
    rw [failuresSince_concat_of_none (none k), ← booked.warnings k, unnoted.log]

/-- A success clears what is counted and kept of its key. -/
theorem Booked.ok (booked : c.Booked settings turns) (key : RecordKey) (r : Reconciled) :
    (c.turn (.note key (.ok r))).Booked settings (turns ++ [.note key (.ok r)]) := by
  refine ⟨booked.backoff, booked.capacity, fun k => ?_, fun k => ?_⟩
  · by_cases same : k = key
    · subst same
      rw [failuresSince_note_ok]
      exact WorkQueue.failuresOf_forget_self
    · rw [failuresSince_note_of_ne same, ← booked.failures]
      exact WorkQueue.failuresOf_forget_of_ne same
  · by_cases same : k = key
    · subst same
      rw [failuresSince_note_ok]
      exact WarningLog.warnings_clear_self
    · rw [failuresSince_note_of_ne same, ← booked.warnings]
      exact WarningLog.warnings_clear_of_ne same

theorem failures_addRateLimited (t : TimedQueue) (key : RecordKey) :
    (t.addRateLimited key).2.queue.failures = (t.queue.fail key).2.failures ∧
      (t.addRateLimited key).2.queue.backoff = t.queue.backoff := by
  rcases t.addRateLimited_cases key with eq | ⟨due, eq⟩
  · rw [eq]
    exact ⟨WorkQueue.failures_add, WorkQueue.backoff_add⟩
  · rw [eq]
    exact ⟨rfl, rfl⟩

/-- A failure is counted, and kept unless it is a lost race. -/
theorem Booked.error (booked : c.Booked settings turns) (key : RecordKey) (e : ReconcileError) :
    (c.turn (.note key (.error e))).Booked settings (turns ++ [.note key (.error e)]) := by
  obtain ⟨failures, backoff⟩ := failures_addRateLimited c.timed key
  have count : ∀ k, (c.turn (.note key (.error e))).queue.failuresOf k =
      (c.queue.fail key).2.failuresOf k := fun k => by
    rw [WorkQueue.failuresOf, WorkQueue.failuresOf]
    exact congrArg (fun d => (Dictionary.find? d k).getD 0) failures
  refine ⟨backoff.trans booked.backoff, ?_, fun k => ?_, fun k => ?_⟩
  · simp only [turn, note]
    split <;> exact booked.capacity
  · rw [count]
    by_cases same : k = key
    · subst same
      rw [failuresSince_note_error, WorkQueue.failuresOf_fail_self,
        booked.failures, List.length_append, List.length_singleton]
      omega
    · rw [failuresSince_note_of_ne same, ← booked.failures]
      exact WorkQueue.failuresOf_fail_of_ne same
  · simp only [turn, note]
    by_cases same : k = key
    · subst same
      rw [failuresSince_note_error, List.filter_append]
      by_cases conflict : e.isConflict = true
      · simp [conflict, booked.warnings]
      · have kept : [e].filter (!·.isConflict) = [e] := by simp [conflict]
        rw [kept, WarningLog.ofFailures_concat, if_neg conflict, WarningLog.warnings_warn_self,
          WarningLog.warnings_warn_self, booked.capacity, WarningLog.capacity_ofFailures,
          booked.warnings]
    · rw [failuresSince_note_of_ne same, ← booked.warnings]
      split
      · rfl
      · exact WarningLog.warnings_warn_of_ne same

theorem Booked.turn (booked : c.Booked settings turns) (t : Turn) :
    (c.turn t).Booked settings (turns ++ [t]) := by
  cases t with
  | note key result =>
    cases result with
    | ok r => exact booked.ok key r
    | error e => exact booked.error key e
  | enqueue | begin | release | alarm | wait | shutDown =>
    exact booked.unnoted (c.turn_unnoted _ fun _ => rfl) fun _ => rfl

theorem booked_after (settings : ControllerSettings) (broker : BrokerSettings)
    (turns : List Turn) : ((idle settings broker).after turns).Booked settings turns := by
  induction turns using List.reverseRecOn with
  | nil => exact booked_idle settings broker
  | append_singleton before t ih =>
    rw [after_concat]
    exact ih.turn t

/-- After whatever a controller did: what is counted of a key are its failures since it last
succeeded, the warnings kept of it are those of its failures since then that are no lost race, and
every failure had the key added again once, after the delay for the failures before it. -/
theorem bookkeeping (settings : ControllerSettings) (broker : BrokerSettings) (turns : List Turn)
    (k : RecordKey) :
    let c := (idle settings broker).after turns
    c.queue.failuresOf k = min (failuresSince k turns).length WorkQueue.maxFailures ∧
    (c.log.warnings k ≠ [] ↔ ∃ e ∈ failuresSince k turns, e.isConflict = false) ∧
    c.log.warnings k =
      (WarningLog.ofFailures k ((failuresSince k turns).filter (!·.isConflict))).warnings k ∧
    ∀ earlier e later, turns = earlier ++ .note k (.error e) :: later →
      ((idle settings broker).after earlier).timed.AddsAgain k
        ((backoffOf settings).delay (min (failuresSince k earlier).length WorkQueue.maxFailures))
        ((idle settings broker).after (earlier ++ [.note k (.error e)])).timed := by
  have booked := booked_after settings broker turns
  refine ⟨booked.failures k, ?_, booked.warnings k, fun earlier e later split => ?_⟩
  · rw [booked.warnings, WarningLog.warnings_ofFailures_ne_nil_iff, ne_eq, List.filter_eq_nil_iff]
    simp
  · have before := booked_after settings broker earlier
    rw [← before.failures, ← before.backoff, after_concat]
    exact TimedQueue.addsAgain_addRateLimited _ k

end Controller

end ControlPlane
