import ControlPlane.Proofs.WorkQueue.Staffed

/-!
Releasing a key that nobody holds. A queue is not told who is done with a key, so a key can be
released twice, or without having been handed out (`TimedQueue.call`). Such a release changes
nothing exactly if the key need not be worked on; else the key, which is pending, becomes pending
once more. So every key stays pending once and in one hand exactly as long as no pending key is
released (`TimedQueue.releases_tell`).

As long as that is so, the queue is in order (`WorkQueue.Disciplined`). Of calls at large it holds
that a key that must be worked on is pending or held (`TimedQueue.waits_after`), and that the queue
knows which keys were handed out and not released since (`TimedQueue.processing_iff`).
-/

namespace ControlPlane

namespace WorkQueue

variable {q q' : WorkQueue} {key k : RecordKey} {held : List RecordKey}

/-- A key that is added is ignored, or must be worked on as soon as its worker is done, or is
pending. -/
theorem add_cases (q : WorkQueue) (key : RecordKey) :
    q.add key = q ∨
      (q.processing.contains key = true ∧
        q.add key = { q with dirty := q.dirty.insert key () }) ∨
      q.add key = { q with dirty := q.dirty.insert key (), pending := q.pending ++ [key] } := by
  rcases Bool.eq_false_or_eq_true q.isShutDown with shut | isOpen
  · exact .inl (add_of_shutDown shut key)
  · by_cases dirty : q.dirty.contains key = true
    · exact .inl (add_of_dirty dirty)
    · by_cases isHeld : q.processing.contains key = true
      · exact .inr (.inl ⟨isHeld, add_of_held isOpen dirty isHeld⟩)
      · exact .inr (.inr (add_of_free isOpen dirty isHeld))

theorem processing_add (q : WorkQueue) (key : RecordKey) :
    (q.add key).processing = q.processing := by
  rcases q.add_cases key with eq | ⟨-, eq⟩ | eq <;> rw [eq]

/-! ### One release -/

/-- To release a key that nobody holds and that need not be worked on is to do nothing. -/
theorem release_of_clean (free : ¬ q.processing.contains key = true)
    (clean : ¬ q.dirty.contains key = true) : q.release key = q := by
  simp [release, Dictionary.erase_of_absent free, clean]

/-- A key that nobody holds but that must be worked on becomes pending once more. -/
theorem release_of_dirty (free : ¬ q.processing.contains key = true)
    (dirty : q.dirty.contains key = true) :
    q.release key = { q with pending := q.pending ++ [key] } := by
  simp [release, Dictionary.erase_of_absent free, dirty]

theorem release_eq_self_iff (free : ¬ q.processing.contains key = true) :
    q.release key = q ↔ ¬ q.dirty.contains key = true := by
  refine ⟨fun same dirty => ?_, release_of_clean free⟩
  have longer := congrArg (·.pending.length) ((release_of_dirty free dirty).symm.trans same)
  simp at longer

/-- In a queue in order, a release keeps the order unless the key is pending. -/
theorem Disciplined.released (h : q.Disciplined held) (notPending : key ∉ q.pending) :
    ∃ held, (q.release key).Disciplined held := by
  by_cases isHeld : q.processing.contains key = true
  · have mem := (h.held_iff key).mp isHeld
    exact ⟨_, (h.perm (List.perm_cons_erase mem)).release⟩
  · have clean : ¬ q.dirty.contains key = true := fun dirty =>
      (h.dirtyWaits key dirty).elim notPending isHeld
    rw [release_of_clean isHeld clean]
    exact ⟨held, h⟩

/-! ### Keys that must be worked on -/

/-- A key that must be worked on is pending or held. -/
def Waits (q : WorkQueue) : Prop :=
  ∀ k, q.dirty.contains k = true → k ∈ q.pending ∨ q.processing.contains k = true

theorem Waits.alike (waits : q.Waits) (alike : q.Alike q') : q'.Waits := by
  obtain ⟨pending, dirty, processing⟩ := alike
  intro k
  rw [pending, dirty, processing]
  exact waits k

theorem Waits.added (waits : q.Waits) (key : RecordKey) : (q.add key).Waits := by
  rcases q.add_cases key with eq | ⟨isHeld, eq⟩ | eq <;> rw [eq]
  · exact waits
  · intro k dirty
    rcases Dictionary.contains_insert_iff.mp dirty with rfl | old
    · exact .inr isHeld
    · exact waits k old
  · intro k dirty
    rcases Dictionary.contains_insert_iff.mp dirty with rfl | old
    · exact .inl (List.mem_append_right _ (List.mem_singleton_self k))
    · exact (waits k old).imp_left (List.mem_append_left _)

theorem Waits.taken (waits : q.Waits) (taken : q.take? = some (key, q')) : q'.Waits := by
  obtain ⟨rest, pending, rfl⟩ := take?_eq_some_iff.mp taken
  intro k dirty
  obtain ⟨ne, old⟩ := Dictionary.contains_erase_iff.mp dirty
  rcases waits k old with mem | isHeld
  · rw [pending] at mem
    exact .inl ((List.mem_cons.mp mem).resolve_left ne)
  · exact .inr (Dictionary.contains_insert_iff.mpr (.inr isHeld))

theorem Waits.released (waits : q.Waits) (key : RecordKey) : (q.release key).Waits := by
  intro k dirty
  change q.dirty.contains k = true at dirty
  by_cases same : k = key
  · subst same
    refine .inl ?_
    rw [release, if_pos dirty]
    exact List.mem_append_right _ (List.mem_singleton_self k)
  · have stays : k ∈ q.pending → k ∈ (q.release key).pending := by
      intro mem
      simp only [release]
      split
      · exact List.mem_append_left _ mem
      · exact mem
    exact (waits k dirty).imp stays fun isHeld => Dictionary.contains_erase_iff.mpr ⟨same, isHeld⟩

end WorkQueue

namespace TimedQueue

variable {ι : Type} {t : TimedQueue} {calls : List (QueueMove ι)} {m : QueueMove ι}
  {key k : RecordKey} {held : List RecordKey}

/-! ### Calls by anyone -/

/-- A new queue. -/
def new (backoff : Backoff) : TimedQueue := { queue := { backoff } }

/-- The queue after a call, whoever makes it: a key is released also for those who do not hold
it. -/
def call (t : TimedQueue) : QueueMove ι → TimedQueue
  | .add key => t.modify (·.add key)
  | .addAfter key delay => t.addAfter key delay
  | .addRateLimited key => (t.addRateLimited key).2
  | .alarm n => t.goOff n
  | .get _ =>
    match t.queue.get? with
    | some (_, queue) => { t with queue }
    | none => t
  | .done _ key => t.modify (·.release key)
  | .forget key => t.modify (·.forget key)
  | .shutDown => t.modify (·.shutDown)
  | .wait now => { t with now }

/-- The queue after calls. -/
def afterCalls (t : TimedQueue) (calls : List (QueueMove ι)) : TimedQueue := calls.foldl call t

/-- The key that a call hands out. -/
def handed? (t : TimedQueue) : QueueMove ι → Option RecordKey
  | .get _ => t.queue.get?.map Prod.fst
  | _ => none

/-- One of the calls handed the key out, and no later one released it. -/
def HeldAfter (t : TimedQueue) (calls : List (QueueMove ι)) (key : RecordKey) : Prop :=
  ∃ before m later, calls = before ++ m :: later ∧
    (t.afterCalls before).handed? m = some key ∧ ∀ w, .done w key ∉ later

theorem afterCalls_concat : t.afterCalls (calls ++ [m]) = (t.afterCalls calls).call m := by
  simp [afterCalls]

/-! ### What a call does -/

/-- What a call did to the queue, with the key that it handed out. -/
inductive CallEffect (q : WorkQueue) : QueueMove ι → Option RecordKey → WorkQueue → Prop where
  | quiet {m : QueueMove ι} {q' : WorkQueue} (keeps : ∀ w key, m ≠ .done w key)
      (alike : q.Alike q') : CallEffect q m none q'
  | added {m : QueueMove ι} {q' : WorkQueue} (keeps : ∀ w key, m ≠ .done w key) (key : RecordKey)
      (isOpen : q.isShutDown = false) (alike : (q.add key).Alike q') : CallEffect q m none q'
  | handedOut {m : QueueMove ι} {q' : WorkQueue} (keeps : ∀ w key, m ≠ .done w key)
      (key : RecordKey) (isOpen : q.isShutDown = false) (taken : q.take? = some (key, q')) :
      CallEffect q m (some key) q'
  | released (w : ι) (key : RecordKey) : CallEffect q (.done w key) none (q.release key)

/-- Short of a release, it makes no difference to the queue who calls it. -/
theorem timed_step [DecidableEq ι] (s : StaffedQueue ι) (keeps : ∀ w key, m ≠ .done w key) :
    (s.step m).timed = s.timed.call m := by
  cases m with
  | done w key => exact absurd rfl (keeps w key)
  | get w =>
    simp only [StaffedQueue.step, call, StaffedQueue.queue]
    cases s.timed.queue.get? <;> rfl
  | _ => rfl

theorem handed?_event (s : StaffedQueue ι) (m : QueueMove ι) :
    (s.event? m).bind QueueEvent.handed? = s.timed.handed? m := by
  have none_of_accepted (key : RecordKey) :
      (s.accepted? key).bind QueueEvent.handed? = none := by
    unfold StaffedQueue.accepted?
    split <;> rfl
  cases m with
  | add key => exact none_of_accepted key
  | addAfter key delay =>
    simp only [StaffedQueue.event?]
    split
    · exact none_of_accepted key
    · rfl
  | addRateLimited key =>
    simp only [StaffedQueue.event?]
    split
    · exact none_of_accepted key
    · rfl
  | alarm n =>
    simp only [StaffedQueue.event?]
    cases s.timed.alarms[n]? with
    | none => rfl
    | some a => exact none_of_accepted a.key
  | get w =>
    simp only [StaffedQueue.event?, handed?, StaffedQueue.queue]
    cases s.timed.queue.get? <;> rfl
  | _ => rfl

theorem call_effect (t : TimedQueue) (m : QueueMove ι) :
    CallEffect t.queue m (t.handed? m) (t.call m).queue := by
  classical
  by_cases releases : ∃ w key, m = .done w key
  · obtain ⟨w, key, rfl⟩ := releases
    exact .released w key
  · simp only [not_exists] at releases
    have effect := StaffedQueue.step_effect ⟨t, []⟩ m
    rw [← handed?_event ⟨t, []⟩ m, ← timed_step ⟨t, []⟩ releases]
    generalize StaffedQueue.event? ⟨t, []⟩ m = event at effect ⊢
    cases effect with
    | quiet alike => exact .quiet releases alike
    | added key isOpen alike => exact .added releases key isOpen alike
    | handedOut w key isOpen taken => exact .handedOut releases key isOpen taken
    | released w key mem => exact absurd mem List.not_mem_nil

theorem CallEffect.waits {q q' : WorkQueue} {given : Option RecordKey} (waits : q.Waits)
    (effect : CallEffect q m given q') : q'.Waits := by
  cases effect with
  | quiet _ alike => exact waits.alike alike
  | added _ key _ alike => exact (waits.added key).alike alike
  | handedOut _ key _ taken => exact waits.taken taken
  | released w key => exact waits.released key

/-- The keys that are held after a call. -/
theorem CallEffect.processing_iff {q q' : WorkQueue} {given : Option RecordKey}
    (effect : CallEffect q m given q') : q'.processing.contains k = true ↔
      given = some k ∨ q.processing.contains k = true ∧ ∀ w, m ≠ .done w k := by
  cases effect with
  | quiet keeps alike => simp [alike.processing, keeps]
  | added keeps key _ alike => simp [alike.processing, WorkQueue.processing_add, keeps]
  | handedOut keeps key _ taken =>
    obtain ⟨rest, -, rfl⟩ := WorkQueue.take?_eq_some_iff.mp taken
    rw [Dictionary.contains_insert_iff, eq_comm (a := k)]
    simp [keeps]
  | released w key =>
    rw [WorkQueue.release, Dictionary.contains_erase_iff, and_comm, ne_comm]
    simp

/-- A queue in order stays so if no pending key is released. -/
theorem CallEffect.disciplined {q q' : WorkQueue} {given : Option RecordKey}
    (effect : CallEffect q m given q') (h : q.opened.Disciplined held)
    (apart : ∀ w key, m = .done w key → key ∉ q.pending) : ∃ held, q'.opened.Disciplined held := by
  cases effect with
  | quiet _ alike => exact ⟨held, h.alike alike⟩
  | added _ key isOpen alike =>
    have added : (q.add key).Disciplined held := (WorkQueue.opened_of_open isOpen ▸ h).add key
    rw [← WorkQueue.opened_of_open added.isOpen] at added
    exact ⟨held, added.alike alike⟩
  | handedOut _ key isOpen taken =>
    have given := ((WorkQueue.opened_of_open isOpen ▸ h).take taken).1
    rw [← WorkQueue.opened_of_open given.isOpen] at given
    exact ⟨_, given⟩
  | released w key => exact h.released (apart w key rfl)

/-! ### Calls on a new queue -/

theorem waits_after (backoff : Backoff) (calls : List (QueueMove ι)) :
    ((new backoff).afterCalls calls).queue.Waits := by
  induction calls using List.reverseRecOn with
  | nil =>
    intro k dirty
    cases dirty
  | append_singleton before m ih =>
    rw [afterCalls_concat]
    exact (call_effect _ m).waits ih

/-- A key is held after a further call if that handed it out, or it was held and not released. -/
theorem heldAfter_concat_iff : t.HeldAfter (calls ++ [m]) k ↔
    (t.afterCalls calls).handed? m = some k ∨ t.HeldAfter calls k ∧ ∀ w, m ≠ .done w k := by
  constructor
  · rintro ⟨before, m', later, split, given, kept⟩
    rcases List.eq_nil_or_concat' later with rfl | ⟨rest, last, rfl⟩
    · obtain ⟨rfl, one⟩ := List.append_inj' split rfl
      obtain rfl := List.singleton_inj.mp one
      exact .inl given
    · rw [← List.cons_append, ← List.append_assoc] at split
      obtain ⟨rfl, one⟩ := List.append_inj' split rfl
      obtain rfl := List.singleton_inj.mp one
      refine .inr ⟨⟨before, m', rest, rfl, given, fun w mem => ?_⟩, fun w same => ?_⟩
      · exact kept w (List.mem_append_left _ mem)
      · exact kept w (same ▸ List.mem_append_right _ (List.mem_singleton_self _))
  · rintro (given | ⟨⟨before, m', later, rfl, given, kept⟩, keeps⟩)
    · exact ⟨calls, m, [], rfl, given, fun _ => List.not_mem_nil⟩
    · refine ⟨before, m', later ++ [m], by simp, given, fun w mem => ?_⟩
      rcases List.mem_append.mp mem with old | last
      · exact kept w old
      · exact keeps w (List.mem_singleton.mp last).symm

/-- The queue knows which keys are held. -/
theorem processing_iff (backoff : Backoff) (calls : List (QueueMove ι)) :
    ((new backoff).afterCalls calls).queue.processing.contains k = true ↔
      (new backoff).HeldAfter calls k := by
  induction calls using List.reverseRecOn with
  | nil =>
    refine iff_of_false (fun isHeld => ?_) ?_
    · cases isHeld
    · rintro ⟨before, m, later, split, -⟩
      simp at split
  | append_singleton before m ih =>
    rw [afterCalls_concat, (call_effect _ m).processing_iff, ih, heldAfter_concat_iff]

/-- After the calls, every key is pending once, and the next key to be handed out is not held. -/
structure Orderly (t : TimedQueue) (calls : List (QueueMove ι)) : Prop where
  pendingOnce : (t.afterCalls calls).queue.pending.Nodup
  handsOutFree : ∀ (w : ι) key, (t.afterCalls calls).handed? (.get w) = some key →
    ¬ t.HeldAfter calls key

/-- No call releases a pending key. -/
def NoneReleasedPending (t : TimedQueue) (calls : List (QueueMove ι)) : Prop :=
  ∀ before w key later, calls = before ++ .done w key :: later →
    key ∉ (t.afterCalls before).queue.pending

variable {backoff : Backoff}

theorem NoneReleasedPending.earlier {later : List (QueueMove ι)}
    (apart : t.NoneReleasedPending (calls ++ later)) : t.NoneReleasedPending calls :=
  fun before w key rest split => apart before w key (rest ++ later) (by simp [split])

theorem disciplined_after (apart : (new backoff).NoneReleasedPending calls) :
    ∃ held, ((new backoff).afterCalls calls).queue.opened.Disciplined held := by
  induction calls using List.reverseRecOn with
  | nil => exact ⟨[], WorkQueue.disciplined_new backoff⟩
  | append_singleton before m ih =>
    obtain ⟨held, disciplined⟩ := ih apart.earlier
    rw [afterCalls_concat]
    refine (call_effect _ m).disciplined disciplined fun w key releases => ?_
    subst releases
    exact apart before w key [] rfl

theorem orderly_of_disciplined
    (h : ((new backoff).afterCalls calls).queue.opened.Disciplined held) :
    (new backoff).Orderly calls where
  pendingOnce := h.pendingOnce
  handsOutFree w key given isHeld := by
    obtain ⟨⟨_, left⟩, taken, rfl⟩ := Option.map_eq_some_iff.mp given
    obtain ⟨rest, pending, -⟩ :=
      WorkQueue.take?_eq_some_iff.mp (WorkQueue.get?_eq_some_iff.mp taken).2
    have mem := pending ▸ List.mem_cons_self
    exact h.pendingFree _ mem ((processing_iff backoff calls).mpr isHeld)

/-- A pending key that is released is pending twice. -/
theorem not_orderly_of_release {w : ι}
    (h : ((new backoff).afterCalls calls).queue.opened.Disciplined held)
    (pending : key ∈ ((new backoff).afterCalls calls).queue.pending) :
    ¬ (new backoff).Orderly (calls ++ [.done w key]) := by
  intro orderly
  have once := orderly.pendingOnce
  have released :=
    WorkQueue.release_of_dirty (h.pendingFree key pending) (h.pendingDirty key pending)
  have eq : ((new backoff).afterCalls (calls ++ [.done w key])).queue.pending =
      ((new backoff).afterCalls calls).queue.pending ++ [key] := by
    rw [afterCalls_concat]
    exact congrArg WorkQueue.pending released
  rw [eq, List.nodup_append] at once
  exact once.2.2 key pending key (List.mem_singleton_self key) rfl

/-- Every key stays pending once and in one hand exactly if no pending key is released. -/
theorem orderly_iff (backoff : Backoff) (calls : List (QueueMove ι)) :
    (∀ before later, calls = before ++ later → (new backoff).Orderly before) ↔
      (new backoff).NoneReleasedPending calls := by
  constructor
  · intro orderly
    induction calls using List.reverseRecOn with
    | nil => exact fun before w key later split => by simp at split
    | append_singleton earlier m ih =>
      have apart := ih fun before later split => orderly before (later ++ [m]) (by simp [split])
      obtain ⟨held, disciplined⟩ := disciplined_after apart
      intro before w key later split pending
      rcases List.eq_nil_or_concat' later with rfl | ⟨rest, last, rfl⟩
      · obtain ⟨rfl, one⟩ := List.append_inj' split rfl
        obtain rfl := List.singleton_inj.mp one
        exact not_orderly_of_release (w := w) disciplined pending (orderly _ [] (by simp))
      · rw [← List.cons_append, ← List.append_assoc] at split
        obtain ⟨rfl, -⟩ := List.append_inj' split rfl
        exact apart before w key rest rfl pending
  · rintro apart before later rfl
    obtain ⟨held, disciplined⟩ := disciplined_after apart.earlier
    exact orderly_of_disciplined disciplined

/-- What a release does to a queue after calls. -/
structure ReleaseEffects (t : TimedQueue) (calls : List (QueueMove ι)) : Prop where
  /-- A release of a key that nobody holds does nothing exactly if the key need not be worked on. -/
  unheld_iff : ∀ (w : ι) key, ¬ t.HeldAfter calls key →
    (t.afterCalls (calls ++ [.done w key]) = t.afterCalls calls ↔
      (t.afterCalls calls).queue.dirty.contains key = false)
  /-- Else the key, which is pending, becomes pending once more. -/
  doubled : ∀ (w : ι) key, ¬ t.HeldAfter calls key →
    (t.afterCalls calls).queue.dirty.contains key = true →
      key ∈ (t.afterCalls calls).queue.pending ∧
        t.afterCalls (calls ++ [.done w key]) = (t.afterCalls calls).modify fun q =>
          { q with pending := q.pending ++ [key] }
  /-- To release a key twice is to release it once exactly if it need not be worked on. -/
  twice_iff : ∀ (v w : ι) key,
    t.afterCalls (calls ++ [.done v key, .done w key]) = t.afterCalls (calls ++ [.done v key]) ↔
      (t.afterCalls calls).queue.dirty.contains key = false
  /-- While no pending key was released, a key that nobody holds need not be worked on exactly if it
  is not pending. -/
  clean_iff : t.NoneReleasedPending calls → ∀ key, ¬ t.HeldAfter calls key →
    ((t.afterCalls calls).queue.dirty.contains key = false ↔
      key ∉ (t.afterCalls calls).queue.pending)
  /-- Every key was always pending once and in one hand exactly if no pending key was released. -/
  orderly_iff : (∀ before later, calls = before ++ later → t.Orderly before) ↔
    t.NoneReleasedPending calls

theorem modify_eq_self_iff {f : WorkQueue → WorkQueue} : t.modify f = t ↔ f t.queue = t.queue := by
  cases t
  simp [modify]

/-- A release of a key that nobody holds does nothing exactly if the key need not be worked on. -/
theorem release_unheld_iff (w : ι) (free : ¬ (new backoff).HeldAfter calls key) :
    (new backoff).afterCalls (calls ++ [.done w key]) = (new backoff).afterCalls calls ↔
      ((new backoff).afterCalls calls).queue.dirty.contains key = false := by
  rw [← processing_iff] at free
  rw [afterCalls_concat, call, modify_eq_self_iff, WorkQueue.release_eq_self_iff free,
    Bool.not_eq_true]

/-- Whatever was called, to release a key that nobody holds is to do nothing exactly if the key need
not be worked on; and keys are in order exactly as long as no pending one is released. -/
theorem releases_tell (backoff : Backoff) (calls : List (QueueMove ι)) :
    (new backoff).ReleaseEffects calls where
  unheld_iff w key free := release_unheld_iff w free
  doubled w key free dirty := by
    rw [← processing_iff] at free
    refine ⟨(waits_after backoff calls key dirty).resolve_right free, ?_⟩
    rw [afterCalls_concat, call, modify, modify, WorkQueue.release_of_dirty free dirty]
  twice_iff v w key := by
    have free : ¬ (new backoff).HeldAfter (calls ++ [.done v key]) key := by
      rw [heldAfter_concat_iff]
      simp [handed?]
    have again := release_unheld_iff w free
    rw [List.append_assoc, List.singleton_append] at again
    rw [again, afterCalls_concat]
    rfl
  clean_iff apart key free := by
    rw [← processing_iff] at free
    obtain ⟨held, disciplined⟩ := disciplined_after apart
    rw [← Bool.not_eq_true]
    constructor
    · intro clean pending
      exact clean (disciplined.pendingDirty key pending)
    · intro notPending dirty
      exact (disciplined.dirtyWaits key dirty).elim notPending free
  orderly_iff := orderly_iff backoff calls

/-- A key that waits and is released once more is pending twice, and is handed to a second worker
while the first one holds it. -/
theorem waitingKey_doubled :
    let key : RecordKey := ⟨"default", "a"⟩
    let t := new ⟨10, 100⟩
    let calls : List (QueueMove Nat) := [.add key, .get 0, .add key, .done 0 key]
    let again := calls ++ [.done 0 key]
    ¬ t.HeldAfter calls key ∧ t.afterCalls again ≠ t.afterCalls calls ∧
      (t.afterCalls again).queue.pending = [key, key] ∧
      t.HeldAfter (again ++ [.get 1]) key ∧
      (t.afterCalls (again ++ [.get 1])).handed? (.get 2 : QueueMove Nat) = some key := by
  intro key t calls again
  have single : (t.afterCalls calls).queue.pending = [key] := by decide
  have doubled : (t.afterCalls again).queue.pending = [key, key] := by decide
  refine ⟨?_, fun same => ?_, doubled, ?_, by decide⟩
  · rw [← processing_iff]
    decide
  · rw [same, single] at doubled
    cases doubled
  · rw [← processing_iff]
    decide

end TimedQueue

end ControlPlane
