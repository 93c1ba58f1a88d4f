import ControlPlane.Proofs.WorkQueue.Staffed

/-!
Single flight, and no key that is lost. In whatever order a queue is called, no two workers hold one
key, a pending key is pending once and not held, and exactly those keys must be worked on that are
pending or were added since they were handed out to their worker (`StaffedQueue.SingleFlight`). So
an addition is followed by a hand-out before its key is clean again, keys are handed out in the order
in which they became pending, and a queue that is shut down hands out nothing.

The invariant is that a key must be worked on exactly if it was added since it was last handed out
(`StaffedQueue.Kept.dirty_iff`).
-/

namespace ControlPlane

namespace StaffedQueue

open QueueEvent

variable {ι : Type} {s s' : StaffedQueue ι} {history : List (QueueEvent ι)}
  {event : Option (QueueEvent ι)}

/-! ### One move -/

/-- The queue is in order but for being shut down, and remembers the additions since the last
hand-out of a key. -/
structure Kept (s : StaffedQueue ι) (history : List (QueueEvent ι)) : Prop where
  disciplined : s.queue.opened.Disciplined s.held
  dirty_iff : ∀ k, s.queue.dirty.contains k = true ↔ .added k ∈ since k history

theorem kept_new (backoff : Backoff) : Kept (new backoff : StaffedQueue ι) [] where
  disciplined := WorkQueue.disciplined_new backoff
  dirty_iff k := by
    have clean : (∅ : KeySet).contains k = false := rfl
    simp [new, queue, clean, since]

/-- A key that was added must be worked on. -/
theorem Kept.added {key : RecordKey} (kept : s.Kept history) (isOpen : s.queue.isShutDown = false)
    (alike : (s.queue.add key).Alike s'.queue) (holds : s'.holds = s.holds) :
    s'.Kept (history ++ [.added key]) := by
  have eq := WorkQueue.opened_of_open isOpen
  refine ⟨?_, fun k => ?_⟩
  · have added : (s.queue.add key).Disciplined s.held := (eq ▸ kept.disciplined).add key
    rw [← WorkQueue.opened_of_open added.isOpen] at added
    rw [held, holds]
    exact added.alike alike
  · rw [alike.dirty, WorkQueue.dirty_add_iff isOpen, kept.dirty_iff, since_added]
    simp [or_comm]

/-- A key that was handed out is clean until it is added again. -/
theorem Kept.handedOut {worker : ι} {key : RecordKey} (kept : s.Kept history)
    (isOpen : s.queue.isShutDown = false) (taken : s.queue.take? = some (key, s'.queue))
    (holds : s'.holds = (worker, key) :: s.holds) :
    s'.Kept (history ++ [.handedOut worker key]) := by
  have eq := WorkQueue.opened_of_open isOpen
  obtain ⟨given, -, -, others⟩ := (eq ▸ kept.disciplined).take taken
  refine ⟨?_, fun k => ?_⟩
  · rw [held, holds, WorkQueue.opened_of_open given.isOpen]
    exact given
  · by_cases same : k = key
    · subst same
      obtain ⟨rest, -, queue⟩ := WorkQueue.take?_eq_some_iff.mp taken
      rw [since_handedOut_self, queue, Dictionary.contains_erase_iff]
      simp
    · rw [since_handedOut_of_ne same, others k same, kept.dirty_iff]
      simp

/-- A key that was released is pending again if it must be worked on. -/
theorem Kept.released [DecidableEq ι] {worker : ι} {key : RecordKey} (kept : s.Kept history)
    (mem : (worker, key) ∈ s.holds) (queue : s'.queue = s.queue.release key)
    (holds : s'.holds = s.holds.erase (worker, key)) : s'.Kept history := by
  have perm : s.held.Perm (key :: s'.held) := by
    rw [held, held, holds]
    exact (List.perm_cons_erase mem).map Prod.snd
  refine ⟨?_, fun k => ?_⟩
  · rw [queue]
    exact (kept.disciplined.perm perm).release
  · rw [queue]
    exact kept.dirty_iff k

theorem Kept.effect [DecidableEq ι] (kept : s.Kept history) (effect : Effect s event s') :
    s'.Kept (history ++ event.toList) := by
  cases effect with
  | quiet alike holds =>
    simp only [Option.toList_none, List.append_nil]
    refine ⟨?_, fun k => ?_⟩
    · rw [held, holds]
      exact kept.disciplined.alike alike
    · rw [alike.dirty]
      exact kept.dirty_iff k
  | added key isOpen alike holds => exact kept.added isOpen alike holds
  | handedOut worker key isOpen taken holds => exact kept.handedOut isOpen taken holds
  | released worker key mem queue holds =>
    simp only [Option.toList_none, List.append_nil]
    exact kept.released mem queue holds

/-! ### The order of hand-outs -/

theorem filter_new_append {old new : List RecordKey} (fresh : ∀ k ∈ new, k ∉ old) :
    (old ++ new).filter (· ∉ old) = new := by
  have gone : old.filter (· ∉ old) = [] :=
    List.filter_eq_nil_iff.mpr fun k mem => by simpa using mem
  have stay : new.filter (· ∉ old) = new := List.filter_eq_self.mpr fun k mem => by
    simpa using fresh k mem
  rw [List.filter_append, gone, stay, List.nil_append]

/-- A key that is handed out was the first one, and a key becomes pending as the last one. -/
theorem Effect.inOrder [DecidableEq ι] (effect : Effect s event s')
    (disciplined : s.queue.opened.Disciplined s.held) :
    s.queue.pending ++ s'.queue.pending.filter (· ∉ s.queue.pending) =
      handedKeys event.toList ++ s'.queue.pending := by
  have unmoved : s.queue.pending.filter (· ∉ s.queue.pending) = [] := by
    simp
  cases effect with
  | quiet alike holds =>
    rw [alike.pending, unmoved]
    simp [handedKeys]
  | added key isOpen alike holds =>
    rw [alike.pending]
    by_cases dirty : s.queue.dirty.contains key = true
    · rw [WorkQueue.add_of_dirty dirty, unmoved]
      simp [handedKeys, handed?]
    · by_cases isHeld : s.queue.processing.contains key = true
      · rw [WorkQueue.add_of_held isOpen dirty isHeld, unmoved]
        simp [handedKeys, handed?]
      · have fresh : key ∉ s.queue.pending := fun mem => dirty (disciplined.pendingDirty key mem)
        rw [WorkQueue.add_of_free isOpen dirty isHeld, filter_new_append (by simpa using fresh)]
        simp [handedKeys, handed?]
  | handedOut worker key isOpen taken holds =>
    obtain ⟨rest, pending, queue⟩ := WorkQueue.take?_eq_some_iff.mp taken
    have nothing : rest.filter (· ∉ s.queue.pending) = [] :=
      List.filter_eq_nil_iff.mpr fun k mem => by simp [pending, mem]
    rw [queue, nothing, pending]
    simp [handedKeys, handed?]
  | released worker key mem queue holds =>
    have isHeld : key ∈ s.held := List.mem_map_of_mem mem
    have fresh : key ∉ s.queue.pending := fun pending =>
      disciplined.pendingFree key pending ((disciplined.held_iff key).mpr isHeld)
    rw [queue, WorkQueue.release]
    split
    · rw [filter_new_append (by simpa using fresh)]
      simp [handedKeys]
    · rw [unmoved]
      simp [handedKeys]

/-! ### Runs -/

variable [DecidableEq ι] {m : QueueMove ι} {moves later : List (QueueMove ι)}

theorem kept_after (kept : s.Kept history) (moves : List (QueueMove ι)) :
    (s.after moves).Kept (history ++ s.events moves) := by
  induction moves using List.reverseRecOn with
  | nil => simpa [events, after] using kept
  | append_singleton before m ih =>
    rw [after_concat, events_concat, ← List.append_assoc]
    exact ih.effect (step_effect _ m)

theorem inOrder_after (kept : s.Kept history) (moves : List (QueueMove ι)) :
    s.queue.pending ++ s.entered moves =
      handedKeys (s.events moves) ++ (s.after moves).queue.pending := by
  induction moves generalizing s history with
  | nil => simp [entered, events, handedKeys, after]
  | cons m rest ih =>
    have effect := step_effect s m
    have first := effect.inOrder kept.disciplined
    have tail := ih (kept.effect effect)
    calc s.queue.pending ++ s.entered (m :: rest)
        = s.queue.pending ++ (s.step m).queue.pending.filter (· ∉ s.queue.pending) ++
            (s.step m).entered rest := by rw [entered, List.append_assoc]
      _ = handedKeys (s.event? m).toList ++
            ((s.step m).queue.pending ++ (s.step m).entered rest) := by
          rw [first, List.append_assoc]
      _ = handedKeys (s.events (m :: rest)) ++ (s.after (m :: rest)).queue.pending := by
          rw [tail, events, handedKeys, handedKeys, handedKeys, List.filterMap_append,
            List.append_assoc]
          rfl

/-! ### A queue that is shut down -/

theorem shutDown_step (shut : s.queue.isShutDown = true) :
    (s.step m).queue.isShutDown = true := by
  have added : ∀ {q : WorkQueue} {key : RecordKey}, q.isShutDown = true →
      (q.add key).isShutDown = true := fun {q key} shut => by
    rw [WorkQueue.add_of_shutDown shut]
    exact shut
  cases m with
  | add key => exact added shut
  | addAfter key delay =>
    simp only [step, TimedQueue.addAfter]
    split
    · exact added shut
    · exact shut
  | addRateLimited key =>
    simp only [step]
    rcases s.timed.addRateLimited_cases key with eq | ⟨due, eq⟩
    · rw [eq]
      exact added shut
    · rw [eq]
      exact shut
  | alarm n =>
    simp only [step, TimedQueue.goOff]
    split
    · exact added shut
    · exact shut
  | get worker => simp [step, WorkQueue.get?, shut]
  | done worker key =>
    simp only [step]
    split <;> exact shut
  | forget key => exact shut
  | shutDown => rfl
  | wait now => exact shut

theorem shutDown_after (shut : s.queue.isShutDown = true) (moves : List (QueueMove ι)) :
    (s.after moves).queue.isShutDown = true := by
  induction moves generalizing s with
  | nil => exact shut
  | cons m rest ih => exact ih (shutDown_step shut)

/-- No key is accepted or handed out any more. -/
theorem events_of_shutDown (shut : s.queue.isShutDown = true) (moves : List (QueueMove ι)) :
    s.events moves = [] := by
  induction moves generalizing s with
  | nil => rfl
  | cons m rest ih =>
    have nothing : s.event? m = none := by
      have effect := step_effect s m
      generalize s.event? m = event at effect
      cases effect with
      | quiet => rfl
      | added key isOpen => rw [isOpen] at shut; cases shut
      | handedOut worker key isOpen => rw [isOpen] at shut; cases shut
      | released => rfl
    rw [events, nothing, ih (shutDown_step shut)]
    rfl

/-! ### Single flight -/

/-- What holds of a queue and its workers after what happened to its keys, of which some became
pending in this order. -/
structure SingleFlight (s : StaffedQueue ι) (history : List (QueueEvent ι))
    (entered : List RecordKey) : Prop where
  oneHolder : ∀ v w k, (v, k) ∈ s.holds → (w, k) ∈ s.holds → v = w
  heldOnce : s.held.Nodup
  held_iff : ∀ k, s.queue.processing.contains k = true ↔ ∃ w, (w, k) ∈ s.holds
  pendingOnce : s.queue.pending.Nodup
  pendingFree : ∀ k ∈ s.queue.pending, ∀ w, (w, k) ∉ s.holds
  /-- A key must be worked on if it is pending, or was added since it was handed out. -/
  dirty_iff : ∀ k, s.queue.dirty.contains k = true ↔
    k ∈ s.queue.pending ∨ (∃ w, (w, k) ∈ s.holds) ∧ .added k ∈ since k history
  /-- A key that was added must be worked on until it is handed out. -/
  served : ∀ k before later, history = before ++ .added k :: later →
    s.queue.dirty.contains k = true ∨ ∃ w, .handedOut w k ∈ later
  /-- A key becomes pending when its worker is done if it was added since it was handed out. -/
  requeued : ∀ w k, (w, k) ∈ s.holds →
    (k ∈ (s.step (.done w k)).queue.pending ↔ .added k ∈ since k history)
  /-- Keys are handed out in the order in which they became pending. -/
  inOrder : handedKeys history ++ s.queue.pending = entered

omit [DecidableEq ι] in
theorem mem_held_iff {k : RecordKey} : k ∈ s.held ↔ ∃ w, (w, k) ∈ s.holds := by
  simp [held]

theorem Kept.singleFlight (kept : s.Kept history) {entered : List RecordKey}
    (inOrder : handedKeys history ++ s.queue.pending = entered) :
    s.SingleFlight history entered where
  oneHolder v w k first second := by
    have once : s.held.Nodup := kept.disciplined.heldOnce
    have same := List.inj_on_of_nodup_map once first second rfl
    exact (Prod.mk.inj same).1
  heldOnce := kept.disciplined.heldOnce
  held_iff k := (kept.disciplined.held_iff k).trans mem_held_iff
  pendingOnce := kept.disciplined.pendingOnce
  pendingFree k pending w holds := by
    have isHeld := (kept.disciplined.held_iff k).mpr (mem_held_iff.mpr ⟨w, holds⟩)
    exact kept.disciplined.pendingFree k pending isHeld
  dirty_iff k := by
    have waits : k ∈ s.queue.pending → s.queue.dirty.contains k = true :=
      kept.disciplined.pendingDirty k
    constructor
    · intro dirty
      rcases kept.disciplined.dirtyWaits k dirty with pending | isHeld
      · exact .inl pending
      · rw [kept.disciplined.held_iff, mem_held_iff] at isHeld
        exact .inr ⟨isHeld, (kept.dirty_iff k).mp dirty⟩
    · rintro (pending | ⟨-, added⟩)
      · exact waits pending
      · exact (kept.dirty_iff k).mpr added
  served k before later split := by
    by_cases unserved : ∀ w, .handedOut w k ∉ later
    · subst split
      exact .inl ((kept.dirty_iff k).mpr (mem_since_of_added before later unserved))
    · simp only [not_forall, not_not] at unserved
      exact .inr unserved
  requeued w k holds := by
    have isHeld := (kept.disciplined.held_iff k).mpr (mem_held_iff.mpr ⟨w, holds⟩)
    have notPending : k ∉ s.queue.pending := fun pending =>
      kept.disciplined.pendingFree k pending isHeld
    rw [← kept.dirty_iff, step, if_pos holds]
    simp only [queue, TimedQueue.modify, WorkQueue.release] at notPending ⊢
    split <;> simp_all
  inOrder := inOrder

/-- In whatever order a queue is called, its keys are in single flight and none is lost; and once it
is shut down it accepts and hands out nothing more. -/
theorem singleFlight_after (backoff : Backoff) (moves : List (QueueMove ι)) :
    ((new backoff).after moves).SingleFlight ((new backoff).events moves)
        ((new backoff).entered moves) ∧
      (.shutDown ∈ moves → ∀ later, ((new backoff).after moves).events later = []) := by
  have kept : ((new backoff).after moves).Kept ((new backoff).events moves) := by
    simpa using kept_after (kept_new backoff) moves
  have inOrder := inOrder_after (kept_new (ι := ι) backoff) moves
  refine ⟨kept.singleFlight inOrder.symm, fun shut later => ?_⟩
  obtain ⟨before, rest, rfl⟩ := List.append_of_mem shut
  rw [after_append]
  exact events_of_shutDown (shutDown_after rfl rest) later

/-- A worker that asks a queue which is open is handed the key that became pending first. -/
theorem handsOut_first {key : RecordKey} {rest : List RecordKey}
    (isOpen : s.queue.isShutDown = false) (first : s.queue.pending = key :: rest) (worker : ι) :
    s.event? (.get worker) = some (.handedOut worker key) ∧
      (s.step (.get worker)).queue.pending = rest ∧
      (s.step (.get worker)).queue.isShutDown = false ∧
      (s.step (.get worker)).holds = (worker, key) :: s.holds := by
  have taken := WorkQueue.take?_eq_some_iff.mpr ⟨rest, first, rfl⟩
  have given : s.timed.queue.get? = _ := WorkQueue.get?_eq_some_iff.mpr ⟨isOpen, taken⟩
  simp only [event?, step, queue, given]
  exact ⟨rfl, trivial, isOpen, trivial⟩

/-- Asked once for each of its pending keys, a queue that is open hands out all of them in their
order. -/
theorem handsOut_pending (isOpen : s.queue.isShutDown = false) (worker : ι) :
    s.events (s.queue.pending.map fun _ => .get worker) =
      s.queue.pending.map (.handedOut worker) := by
  generalize waiting : s.queue.pending = pending
  induction pending generalizing s with
  | nil => rfl
  | cons key rest ih =>
    obtain ⟨event, next, isOpen', -⟩ := handsOut_first isOpen waiting worker
    rw [List.map_cons, List.map_cons, events, event, ih isOpen' next]
    rfl

/-- A key that is added while it is held is handed out again when its worker is done. -/
example :
    let key : RecordKey := ⟨"default", "a"⟩
    (new ⟨10, 100⟩ : StaffedQueue Nat).events
        [.add key, .get 0, .add key, .get 1, .done 0 key, .get 1] =
      [.added key, .handedOut 0 key, .added key, .handedOut 1 key] := rfl

end StaffedQueue

end ControlPlane
