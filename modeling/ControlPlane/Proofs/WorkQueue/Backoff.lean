import ControlPlane.Proofs.Controller.Bookkeeping
import Mathlib.Algebra.Group.Nat.Defs

/-!
How long a failed key waits. The delay never exceeds its bound or the doubled first delay, never
decreases from one failure to the next, and is what the key then waits for
(`TimedQueue.addRateLimited_backsOff`). The factor stops one below the power of two that 32 bits
cannot hold, so the delay is the doubled one as long as fewer than 32 failures are counted, and from
then on only if its bound is reached (`Backoff.delay_exact_iff`).
-/

namespace ControlPlane

namespace Backoff

variable {b : Backoff} {n m : Nat}

/-! ### The factor and the delay -/

/-- The factor is the power of two as far as 32 bits go. -/
theorem factor_eq_min (n : Nat) : factor n = min (2 ^ n) (UInt32.size - 1) := by
  have size : UInt32.size = 2 ^ 32 := rfl
  unfold factor
  split
  · rename_i few
    have small : 2 ^ n ≤ 2 ^ 31 := Nat.pow_le_pow_right Nat.two_pos (Nat.le_of_lt_succ few)
    show 2 ^ n = _
    omega
  · rename_i many
    have large : 2 ^ 32 ≤ 2 ^ n := Nat.pow_le_pow_right Nat.two_pos (Nat.le_of_not_lt many)
    omega

theorem factor_mono (le : n ≤ m) : factor n ≤ factor m := by
  rw [factor_eq_min, factor_eq_min]
  have pow : 2 ^ n ≤ 2 ^ m := Nat.pow_le_pow_right Nat.two_pos le
  omega

theorem delay_le_max (b : Backoff) (n : Nat) : b.delay n ≤ b.max := Nat.min_le_right ..

theorem delay_le_doubled (b : Backoff) (n : Nat) : b.delay n ≤ b.base * 2 ^ n := by
  have factor : factor n ≤ 2 ^ n := factor_eq_min n ▸ Nat.min_le_left ..
  exact (Nat.min_le_left ..).trans (Nat.mul_le_mul_left b.base factor)

theorem delay_mono (b : Backoff) (le : n ≤ m) : b.delay n ≤ b.delay m :=
  Nat.le_min.mpr ⟨(Nat.min_le_left ..).trans (Nat.mul_le_mul_left b.base (factor_mono le)),
    b.delay_le_max n⟩

/-- From 32 failures on the delay stays as it is. -/
theorem delay_of_many (b : Backoff) (many : 32 ≤ n) :
    b.delay n = min (b.base * (2 ^ 32 - 1)) b.max := by
  have size : UInt32.size = 2 ^ 32 := rfl
  rw [delay, factor, if_neg (Nat.not_lt.mpr many), size]

/-- The delay is the doubled one up to its bound exactly if few failures are counted, there is
nothing to double, or the bound is reached by the time the factor stops. -/
theorem delay_exact_iff (b : Backoff) (n : Nat) :
    b.delay n = min (b.base * 2 ^ n) b.max ↔
      n < 32 ∨ b.base = 0 ∨ b.max ≤ b.base * (2 ^ 32 - 1) := by
  by_cases few : n < 32
  · have exact : b.delay n = min (b.base * 2 ^ n) b.max := by
      rw [delay, factor, if_pos few]
      rfl
    exact iff_of_true exact (.inl few)
  · have large : 2 ^ 32 ≤ 2 ^ n := Nat.pow_le_pow_right Nat.two_pos (Nat.le_of_not_lt few)
    have doubled : b.base * 2 ^ 32 ≤ b.base * 2 ^ n := Nat.mul_le_mul_left b.base large
    have none : b.base = 0 → b.base * 2 ^ n = 0 := fun none => by rw [none, Nat.zero_mul]
    rw [delay_of_many b (Nat.le_of_not_lt few)]
    omega

/-- The longest time that can be told, in milliseconds: its seconds are a number of 64 bits. -/
def longest : Nat := UInt64.size * 1000 - 1

/-- The delay where a product that cannot be told counts as the bound. -/
def checkedDelay (b : Backoff) (failures : Nat) : Nat :=
  if b.base * factor failures ≤ longest then min (b.base * factor failures) b.max else b.max

/-- No product is taken for another one. -/
theorem checkedDelay_eq (bound : b.max ≤ longest) (n : Nat) : b.checkedDelay n = b.delay n := by
  unfold checkedDelay delay
  split
  · rfl
  · omega

end Backoff

theorem Controller.backoffOf_max_le (settings : ControllerSettings) :
    (backoffOf settings).max ≤ Backoff.longest := by
  have bound : settings.maxRetryDelayMs.toNat < UInt64.size := settings.maxRetryDelayMs.toNat_lt_size
  have le : UInt64.size ≤ Backoff.longest := by decide
  exact bound.le.trans le

/-! ### The wait -/

theorem WorkQueue.isShutDown_add {q : WorkQueue} {key : RecordKey} :
    (q.add key).isShutDown = q.isShutDown := by
  simp only [add]
  split
  · rfl
  · split <;> rfl

namespace TimedQueue

variable {t : TimedQueue} {key k : RecordKey} {time : Nat}

/-- What must be worked on after alarms went off. -/
theorem dirty_goneOff_iff {q : WorkQueue} (isOpen : q.isShutDown = false) (alarms : List Alarm) :
    (alarms.foldl (fun q a => q.add a.key) q).dirty.contains k = true ↔
      q.dirty.contains k = true ∨ ∃ a ∈ alarms, a.key = k := by
  induction alarms generalizing q with
  | nil => simp
  | cons a rest ih =>
    rw [List.foldl_cons, ih (WorkQueue.isShutDown_add.trans isOpen), WorkQueue.dirty_add_iff isOpen,
      List.exists_mem_cons_iff, or_comm (a := k = a.key), or_assoc, eq_comm (a := k)]

/-- What must be worked on at a time: what had to be before, and what an alarm was set for by
then. -/
theorem dirty_sleepUntil_iff (isOpen : t.queue.isShutDown = false) :
    (t.sleepUntil time).queue.dirty.contains k = true ↔
      t.queue.dirty.contains k = true ∨ ∃ a ∈ t.alarms, a.due ≤ time ∧ a.key = k := by
  simp only [sleepUntil, List.partition_eq_filter_filter]
  rw [dirty_goneOff_iff isOpen]
  simp only [List.mem_filter, decide_eq_true_eq, and_assoc]

/-- A key that is added after a delay must be worked on as soon as the delay is over, and no sooner
because it was added. -/
theorem dirty_addAfter_iff (isOpen : t.queue.isShutDown = false) (future : t.now ≤ time)
    (delay : Nat) :
    ((t.addAfter key delay).sleepUntil time).queue.dirty.contains key = true ↔
      t.now + delay ≤ time ∨ (t.sleepUntil time).queue.dirty.contains key = true := by
  unfold addAfter
  split
  · rename_i none
    have added : (t.queue.add key).isShutDown = false := WorkQueue.isShutDown_add.trans isOpen
    have dirty : (t.queue.add key).dirty.contains key = true :=
      (WorkQueue.dirty_add_iff isOpen).mpr (.inl rfl)
    have due : t.now + delay ≤ time := by omega
    exact iff_of_true ((dirty_sleepUntil_iff added).mpr (.inl dirty)) (.inl due)
  · have later : ({ t with alarms := Alarm.enqueue ⟨t.now + delay, key⟩ t.alarms } :
        TimedQueue).queue.isShutDown = false := isOpen
    rw [dirty_sleepUntil_iff later, dirty_sleepUntil_iff isOpen]
    simp only [Alarm.mem_enqueue_iff, or_and_right, exists_or, and_true, exists_eq_left]
    exact or_left_comm

theorem dirty_addRateLimited_iff (isOpen : t.queue.isShutDown = false) (future : t.now ≤ time) :
    ((t.addRateLimited key).2.sleepUntil time).queue.dirty.contains key = true ↔
      t.now + (t.addRateLimited key).1 ≤ time ∨
        (t.sleepUntil time).queue.dirty.contains key = true := by
  let failed : TimedQueue := { t with queue := (t.queue.fail key).2 }
  have stillOpen : failed.queue.isShutDown = false := isOpen
  -- Counting the failure changes neither what must be worked on nor the alarms.
  have same : (failed.sleepUntil time).queue.dirty.contains key = true ↔
      (t.sleepUntil time).queue.dirty.contains key = true :=
    (dirty_sleepUntil_iff stillOpen).trans (dirty_sleepUntil_iff isOpen).symm
  rw [← same]
  exact dirty_addAfter_iff stillOpen future _

theorem failuresOf_addRateLimited : (t.addRateLimited key).2.queue.failuresOf key =
    min (t.queue.failuresOf key + 1) WorkQueue.maxFailures := by
  rw [WorkQueue.failuresOf, (Controller.failures_addRateLimited t key).1]
  exact WorkQueue.failuresOf_fail_self

/-! ### Exactness -/

/-- A failure of a key under any settings: the delay is bounded, never decreases as failures
accumulate, is told without overflow, and is what the key waits for. It is the exact one exactly if
the factor has not stopped short of the bound. -/
theorem addRateLimited_backsOff (settings : ControllerSettings) (t : TimedQueue) (key : RecordKey)
    (configured : t.queue.backoff = Controller.backoffOf settings) :
    let base := settings.baseRetryDelayMs.toNat
    let max := settings.maxRetryDelayMs.toNat
    let n := t.queue.failuresOf key
    let delay := (t.addRateLimited key).1
    let t' := (t.addRateLimited key).2
    delay ≤ max ∧ delay ≤ base * 2 ^ n ∧
    t'.queue.failuresOf key = min (n + 1) WorkQueue.maxFailures ∧
    (∀ m, n ≤ m → delay ≤ (Controller.backoffOf settings).delay m) ∧
    (Controller.backoffOf settings).checkedDelay n = delay ∧
    t.AddsAgain key delay t' ∧
    (t.queue.isShutDown = false → ∀ time, t.now ≤ time →
      ((t'.sleepUntil time).queue.dirty.contains key = true ↔
        t.now + delay ≤ time ∨ (t.sleepUntil time).queue.dirty.contains key = true)) ∧
    (delay = min (base * 2 ^ n) max ↔ n < 32 ∨ base = 0 ∨ max ≤ base * (2 ^ 32 - 1)) ∧
    (32 ≤ n → delay = min (base * (2 ^ 32 - 1)) max) := by
  intro base max n delay t'
  have told : delay = (Controller.backoffOf settings).delay n := by
    rw [← configured]
    rfl
  have failures : t'.queue.failuresOf key = min (n + 1) WorkQueue.maxFailures :=
    failuresOf_addRateLimited
  have again : t.AddsAgain key delay t' := t.addsAgain_addRateLimited key
  refine ⟨?_, ?_, failures, fun m le => ?_, ?_, again,
    fun isOpen _ future => dirty_addRateLimited_iff isOpen future, ?_, fun many => ?_⟩ <;> rw [told]
  · exact Backoff.delay_le_max ..
  · exact Backoff.delay_le_doubled ..
  · exact Backoff.delay_mono _ le
  · exact Backoff.checkedDelay_eq (Controller.backoffOf_max_le settings) n
  · exact Backoff.delay_exact_iff ..
  · exact Backoff.delay_of_many _ many

/-- A new queue in which a key has failed a number of times. -/
def afterFailures (settings : ControllerSettings) (key : RecordKey) : Nat → TimedQueue
  | 0 => { queue := { backoff := Controller.backoffOf settings } }
  | n + 1 => ((afterFailures settings key n).addRateLimited key).2

/-- A failure for a failure is counted, as far as 32 bits go. -/
theorem counted_afterFailures (settings : ControllerSettings) (key : RecordKey) (n : Nat) :
    (afterFailures settings key n).queue.backoff = Controller.backoffOf settings ∧
      (afterFailures settings key n).queue.failuresOf key = min n WorkQueue.maxFailures := by
  induction n with
  | zero => exact ⟨rfl, rfl⟩
  | succ n ih =>
    obtain ⟨backoff, count⟩ := ih
    constructor
    · exact (Controller.failures_addRateLimited _ key).2.trans backoff
    · rw [afterFailures, failuresOf_addRateLimited, count]
      omega

/-- After three failures the first delay has doubled three times. -/
theorem threeFailures_backsOff :
    let t := afterFailures {} ⟨"d", "a"⟩ 3
    t.queue.failuresOf ⟨"d", "a"⟩ = 3 ∧ (t.addRateLimited ⟨"d", "a"⟩).1 = min (5 * 2 ^ 3) 300000 := by
  intro t
  obtain ⟨configured, count⟩ := counted_afterFailures {} ⟨"d", "a"⟩ 3
  have three : t.queue.failuresOf ⟨"d", "a"⟩ = 3 := count
  obtain ⟨-, -, -, -, -, -, -, exact, -⟩ := addRateLimited_backsOff {} t ⟨"d", "a"⟩ configured
  rw [three] at exact
  exact ⟨three, exact.mpr (.inl (by decide))⟩

/-- After 32 failures the delay falls one millisecond short of the doubled one, though neither has
reached the bound. -/
theorem manyFailures_short :
    let settings : ControllerSettings :=
      { baseRetryDelayMs := 1, maxRetryDelayMs := 1000000000000 }
    let t := afterFailures settings ⟨"d", "a"⟩ 32
    t.queue.failuresOf ⟨"d", "a"⟩ = 32 ∧
      (t.addRateLimited ⟨"d", "a"⟩).1 + 1 = min (1 * 2 ^ 32) 1000000000000 := by
  decide +kernel

end TimedQueue

end ControlPlane
