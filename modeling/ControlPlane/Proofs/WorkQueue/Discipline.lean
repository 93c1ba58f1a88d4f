import ControlPlane.Controller.Pass
import ControlPlane.Proofs.Dictionary
import ControlPlane.WorkQueue.Timed
import Mathlib.Data.List.Nodup

/-!
The discipline of the work queue: a key that must be worked on is pending or held, a pending key is
pending once and not held, and no two workers hold one key (`WorkQueue.Disciplined`). Every operation
keeps it. A key that was added must be worked on until it is handed out (`WorkQueue.dirty_add_iff`,
`WorkQueue.Disciplined.take`).
-/

namespace ControlPlane

namespace WorkQueue

variable {q q' : WorkQueue} {held : List RecordKey} {key k : RecordKey}

/-- The queue is open and in order, and workers hold these keys. -/
structure Disciplined (q : WorkQueue) (held : List RecordKey) : Prop where
  isOpen : q.isShutDown = false
  pendingDirty : ∀ k ∈ q.pending, q.dirty.contains k = true
  dirtyWaits : ∀ k, q.dirty.contains k = true → k ∈ q.pending ∨ q.processing.contains k = true
  pendingOnce : q.pending.Nodup
  pendingFree : ∀ k ∈ q.pending, ¬ q.processing.contains k = true
  held_iff : ∀ k, q.processing.contains k = true ↔ k ∈ held
  heldOnce : held.Nodup

/-- A new queue is in order. -/
theorem disciplined_new (backoff : Backoff) : Disciplined { backoff } [] where
  isOpen := rfl
  pendingDirty _ mem := absurd mem List.not_mem_nil
  dirtyWaits _ dirty := by cases dirty
  pendingOnce := List.nodup_nil
  pendingFree _ mem := absurd mem List.not_mem_nil
  held_iff k := by simp [show (∅ : KeySet).contains k = false from rfl]
  heldOnce := List.nodup_nil

/-- In which order the held keys are listed does not matter. -/
theorem Disciplined.perm {held' : List RecordKey} (h : q.Disciplined held)
    (perm : held.Perm held') : q.Disciplined held' :=
  { h with
    held_iff := fun k => (h.held_iff k).trans perm.mem_iff
    heldOnce := perm.nodup_iff.mp h.heldOnce }

/-! ### Adding -/

theorem add_of_dirty (dirty : q.dirty.contains key = true) : q.add key = q := by
  rw [add, dirty, Bool.or_true, if_pos rfl]

theorem add_of_held (isOpen : q.isShutDown = false) (clean : ¬ q.dirty.contains key = true)
    (isHeld : q.processing.contains key = true) :
    q.add key = { q with dirty := q.dirty.insert key () } := by
  simp [add, isOpen, clean, isHeld]

theorem add_of_free (isOpen : q.isShutDown = false) (clean : ¬ q.dirty.contains key = true)
    (free : ¬ q.processing.contains key = true) :
    q.add key = { q with dirty := q.dirty.insert key (), pending := q.pending ++ [key] } := by
  simp [add, isOpen, clean, free]

theorem Disciplined.add (h : q.Disciplined held) (key : RecordKey) :
    (q.add key).Disciplined held := by
  by_cases dirty : q.dirty.contains key = true
  · rw [add_of_dirty dirty]
    exact h
  · by_cases isHeld : q.processing.contains key = true
    · rw [add_of_held h.isOpen dirty isHeld]
      refine { h with pendingDirty := fun k mem => ?_, dirtyWaits := fun k d => ?_ }
      · exact Dictionary.contains_insert_iff.mpr (.inr (h.pendingDirty k mem))
      · rcases Dictionary.contains_insert_iff.mp d with rfl | old
        · exact .inr isHeld
        · exact h.dirtyWaits k old
    · rw [add_of_free h.isOpen dirty isHeld]
      have fresh : key ∉ q.pending := fun mem => dirty (h.pendingDirty key mem)
      refine { h with
        pendingDirty := fun k mem => Dictionary.contains_insert_iff.mpr ?_
        dirtyWaits := fun k d => ?_
        pendingOnce := ?_
        pendingFree := fun k mem => ?_ }
      · rcases List.mem_append.mp mem with old | new
        · exact .inr (h.pendingDirty k old)
        · exact .inl (List.mem_singleton.mp new)
      · rcases Dictionary.contains_insert_iff.mp d with rfl | old
        · exact .inl (List.mem_append_right _ (List.mem_singleton_self k))
        · exact (h.dirtyWaits k old).imp_left (List.mem_append_left _)
      · rw [List.nodup_append]
        refine ⟨h.pendingOnce, List.nodup_singleton key, ?_⟩
        rintro k mem k' mem' rfl
        rw [List.mem_singleton.mp mem'] at mem
        exact fresh mem
      · rcases List.mem_append.mp mem with old | new
        · exact h.pendingFree k old
        · rwa [List.mem_singleton.mp new]

/-- What must be worked on after a key was added. -/
theorem dirty_add_iff (isOpen : q.isShutDown = false) :
    (q.add key).dirty.contains k = true ↔ k = key ∨ q.dirty.contains k = true := by
  by_cases dirty : q.dirty.contains key = true
  · rw [add_of_dirty dirty]
    refine ⟨.inr, ?_⟩
    rintro (rfl | old)
    · exact dirty
    · exact old
  · by_cases isHeld : q.processing.contains key = true
    · rw [add_of_held isOpen dirty isHeld]
      exact Dictionary.contains_insert_iff
    · rw [add_of_free isOpen dirty isHeld]
      exact Dictionary.contains_insert_iff

/-- Nothing but the added key becomes pending. -/
theorem mem_pending_of_add (mem : k ∈ (q.add key).pending) : k ∈ q.pending ∨ k = key := by
  simp only [add] at mem
  split at mem
  · exact .inl mem
  · split at mem
    · exact .inl mem
    · rcases List.mem_append.mp mem with old | new
      · exact .inl old
      · exact .inr (List.mem_singleton.mp new)

theorem Disciplined.addAll (h : q.Disciplined held) (keys : List RecordKey) :
    (q.addAll keys).Disciplined held := by
  induction keys generalizing q with
  | nil => exact h
  | cons key rest ih => exact ih (h.add key)

theorem dirty_addAll_iff (h : q.Disciplined held) {keys : List RecordKey} :
    (q.addAll keys).dirty.contains k = true ↔ k ∈ keys ∨ q.dirty.contains k = true := by
  induction keys generalizing q with
  | nil => simp [WorkQueue.addAll]
  | cons key rest ih =>
    show ((q.add key).addAll rest).dirty.contains k = true ↔ _
    rw [ih (h.add key), dirty_add_iff h.isOpen, List.mem_cons]
    constructor
    · rintro (mem | rfl | old)
      · exact .inl (.inr mem)
      · exact .inl (.inl rfl)
      · exact .inr old
    · rintro ((rfl | mem) | old)
      · exact .inr (.inl rfl)
      · exact .inl mem
      · exact .inr (.inr old)

theorem mem_pending_of_addAll {keys : List RecordKey} (mem : k ∈ (q.addAll keys).pending) :
    k ∈ q.pending ∨ k ∈ keys := by
  induction keys generalizing q with
  | nil => exact .inl mem
  | cons key rest ih =>
    rcases ih mem with added | later
    · rcases mem_pending_of_add added with old | rfl
      · exact .inl old
      · exact .inr List.mem_cons_self
    · exact .inr (List.mem_cons_of_mem _ later)

/-! ### Handing out and releasing -/

theorem take?_eq_some_iff : q.take? = some (key, q') ↔
    ∃ rest, q.pending = key :: rest ∧ q' = { q with
      pending := rest
      dirty := q.dirty.erase key
      processing := q.processing.insert key () } := by
  rw [take?]
  split
  · rename_i none
    simp [none]
  · rename_i first rest some
    simp only [some, Option.some.injEq, Prod.mk.injEq, List.cons.injEq]
    constructor
    · rintro ⟨rfl, rfl⟩
      exact ⟨rest, ⟨rfl, rfl⟩, rfl⟩
    · rintro ⟨rest', ⟨rfl, rfl⟩, rfl⟩
      exact ⟨rfl, rfl⟩

/-- A worker is given the next key of a queue that is open. -/
theorem get?_eq_some_iff :
    q.get? = some (key, q') ↔ q.isShutDown = false ∧ q.take? = some (key, q') := by
  cases shut : q.isShutDown <;> simp [get?, shut]

/-- A key that is handed out was pending, nobody held it, and it need not be worked on again. -/
theorem Disciplined.take (h : q.Disciplined held) (taken : q.take? = some (key, q')) :
    q'.Disciplined (key :: held) ∧ key ∈ q.pending ∧ (∀ k ∈ q'.pending, k ∈ q.pending) ∧
      ∀ k, k ≠ key → (q'.dirty.contains k = true ↔ q.dirty.contains k = true) := by
  obtain ⟨rest, pending, rfl⟩ := take?_eq_some_iff.mp taken
  have mem : key ∈ q.pending := pending ▸ List.mem_cons_self
  have later : ∀ k ∈ rest, k ∈ q.pending := fun k m => pending ▸ List.mem_cons_of_mem _ m
  have once := h.pendingOnce
  rw [pending, List.nodup_cons] at once
  have other : ∀ k ∈ rest, k ≠ key := by
    rintro k m rfl
    exact once.1 m
  have notHeld : key ∉ held := fun isHeld => h.pendingFree key mem ((h.held_iff key).mpr isHeld)
  refine ⟨{ h with
    pendingDirty := fun k m => Dictionary.contains_erase_iff.mpr
      ⟨other k m, h.pendingDirty k (later k m)⟩
    dirtyWaits := fun k d => ?_
    pendingOnce := once.2
    pendingFree := fun k m isHeld => ?_
    held_iff := fun k => ?_
    heldOnce := List.nodup_cons.mpr ⟨notHeld, h.heldOnce⟩ }, mem, later, fun k ne => ?_⟩
  · obtain ⟨ne, old⟩ := Dictionary.contains_erase_iff.mp d
    rcases h.dirtyWaits k old with waits | isHeld
    · rw [pending] at waits
      rcases List.mem_cons.mp waits with rfl | m
      · exact absurd rfl ne
      · exact .inl m
    · exact .inr (Dictionary.contains_insert_iff.mpr (.inr isHeld))
  · rcases Dictionary.contains_insert_iff.mp isHeld with rfl | old
    · exact once.1 m
    · exact h.pendingFree k (later k m) old
  · rw [Dictionary.contains_insert_iff, h.held_iff, List.mem_cons]
  · rw [Dictionary.contains_erase_iff]
    exact and_iff_right ne

/-- A key that is released is pending again if it was added while it was held. -/
theorem Disciplined.release (h : q.Disciplined (key :: held)) :
    (q.release key).Disciplined held := by
  have isHeld : q.processing.contains key = true := (h.held_iff key).mpr List.mem_cons_self
  -- If the key was added while it was held, it is dirty, and it becomes pending only now.
  have notPending : key ∉ q.pending := fun mem => h.pendingFree key mem isHeld
  obtain ⟨notHeld, once⟩ := List.nodup_cons.mp h.heldOnce
  have holds : ∀ k, (q.processing.erase key).contains k = true ↔ k ∈ held := by
    intro k
    rw [Dictionary.contains_erase_iff, h.held_iff, List.mem_cons]
    constructor
    · rintro ⟨ne, rfl | mem⟩
      · exact absurd rfl ne
      · exact mem
    · intro mem
      refine ⟨?_, .inr mem⟩
      rintro rfl
      exact notHeld mem
  have stillHeld : ∀ k, k ≠ key → q.processing.contains k = true →
      (q.processing.erase key).contains k = true := fun k ne isHeld =>
    Dictionary.contains_erase_iff.mpr ⟨ne, isHeld⟩
  simp only [WorkQueue.release]
  split
  · rename_i dirty
    refine { h with
      pendingDirty := fun k mem => ?_
      dirtyWaits := fun k d => ?_
      pendingOnce := ?_
      pendingFree := fun k mem isHeld => ?_
      held_iff := holds
      heldOnce := once }
    · rcases List.mem_append.mp mem with old | new
      · exact h.pendingDirty k old
      · rwa [List.mem_singleton.mp new]
    · by_cases same : k = key
      · subst same
        exact .inl (List.mem_append_right _ (List.mem_singleton_self k))
      · exact (h.dirtyWaits k d).imp (List.mem_append_left _) (stillHeld k same)
    · rw [List.nodup_append]
      refine ⟨h.pendingOnce, List.nodup_singleton key, ?_⟩
      rintro k mem k' mem' rfl
      rw [List.mem_singleton.mp mem'] at mem
      exact notPending mem
    · obtain ⟨ne, old⟩ := Dictionary.contains_erase_iff.mp isHeld
      rcases List.mem_append.mp mem with waits | new
      · exact h.pendingFree k waits old
      · exact ne (List.mem_singleton.mp new)
  · rename_i clean
    refine { h with
      dirtyWaits := fun k d => ?_
      pendingFree := fun k mem isHeld => h.pendingFree k mem (Dictionary.contains_erase_iff.mp isHeld).2
      held_iff := holds
      heldOnce := once }
    have ne : k ≠ key := by
      rintro rfl
      exact clean d
    exact (h.dirtyWaits k d).imp_right (stillHeld k ne)

/-- Nothing but the released key becomes pending. -/
theorem mem_pending_of_release (mem : k ∈ (q.release key).pending) : k ∈ q.pending ∨ k = key := by
  simp only [WorkQueue.release] at mem
  split at mem
  · rcases List.mem_append.mp mem with old | new
    · exact .inl old
    · exact .inr (List.mem_singleton.mp new)
  · exact .inl mem

/-! ### Failures -/

theorem Disciplined.forget (h : q.Disciplined held) (key : RecordKey) :
    (q.forget key).Disciplined held := { h with }

theorem Disciplined.fail (h : q.Disciplined held) (key : RecordKey) :
    (q.fail key).2.Disciplined held := { h with }

end WorkQueue

/-! ### Keys and alarms -/

theorem Alarm.mem_enqueue_iff {a b : Alarm} {alarms : List Alarm} :
    b ∈ a.enqueue alarms ↔ b = a ∨ b ∈ alarms := by
  induction alarms with
  | nil => simp [enqueue]
  | cons c rest ih =>
    rw [enqueue]
    split
    · rw [List.mem_cons, ih, List.mem_cons]
      exact or_left_comm
    · rw [List.mem_cons]

namespace TimedQueue

variable {t : TimedQueue} {held : List RecordKey} {key k : RecordKey}

/-- The key must be worked on, now or when an alarm goes off. -/
def Due (t : TimedQueue) (key : RecordKey) : Prop :=
  t.queue.dirty.contains key = true ∨ ∃ a ∈ t.alarms, a.key = key

/-- The key is pending, or will be added when an alarm goes off. -/
def Awaits (t : TimedQueue) (key : RecordKey) : Prop :=
  key ∈ t.queue.pending ∨ ∃ a ∈ t.alarms, a.key = key

/-- A key that failed is added at once, or an alarm is set for it. -/
theorem addRateLimited_cases (t : TimedQueue) (key : RecordKey) :
    (t.addRateLimited key).2 = { t with queue := (t.queue.fail key).2.add key } ∨
      ∃ due, (t.addRateLimited key).2 =
        { t with queue := (t.queue.fail key).2, alarms := Alarm.enqueue ⟨due, key⟩ t.alarms } := by
  simp only [addRateLimited, addAfter]
  split
  · exact .inl rfl
  · exact .inr ⟨_, rfl⟩

theorem disciplined_addRateLimited (h : t.queue.Disciplined held) (key : RecordKey) :
    (t.addRateLimited key).2.queue.Disciplined held := by
  rcases t.addRateLimited_cases key with eq | ⟨due, eq⟩
  · rw [eq]
    exact (h.fail key).add key
  · rw [eq]
    exact h.fail key

/-- A key that failed is due again. -/
theorem due_addRateLimited_iff (h : t.queue.Disciplined held) :
    (t.addRateLimited key).2.Due k ↔ k = key ∨ t.Due k := by
  rcases t.addRateLimited_cases key with eq | ⟨due, eq⟩
  · rw [eq, Due, WorkQueue.dirty_add_iff (h.fail key).isOpen, or_assoc]
    rfl
  · rw [eq, Due, Due]
    simp only [Alarm.mem_enqueue_iff, exists_eq_or_imp]
    constructor
    · rintro (dirty | rfl | alarm)
      · exact .inr (.inl dirty)
      · exact .inl rfl
      · exact .inr (.inr alarm)
    · rintro (rfl | dirty | alarm)
      · exact .inr (.inl rfl)
      · exact .inl dirty
      · exact .inr (.inr alarm)

theorem awaits_of_addRateLimited (awaits : (t.addRateLimited key).2.Awaits k) :
    k = key ∨ t.Awaits k := by
  rcases t.addRateLimited_cases key with eq | ⟨due, eq⟩
  · rw [eq] at awaits
    rcases awaits with pending | alarm
    · rcases WorkQueue.mem_pending_of_add pending with old | new
      · exact .inr (.inl old)
      · exact .inl new
    · exact .inr (.inr alarm)
  · rw [eq] at awaits
    rcases awaits with pending | ⟨a, mem, rfl⟩
    · exact .inr (.inl pending)
    · rcases Alarm.mem_enqueue_iff.mp mem with rfl | old
      · exact .inl rfl
      · exact .inr (.inr ⟨a, old, rfl⟩)

end TimedQueue

end ControlPlane
