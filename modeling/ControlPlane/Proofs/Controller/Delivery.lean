import ControlPlane.Proofs.Controller.Loop

/-!
Delivery: no trigger is lost. In every state that a loop reaches, every key is due or about to be,
or an invocation for it will leave its agent in sync unless a notice comes first, or its agent is in
sync (`Loop.Sound.accounted`). Where nothing is left to do, only the last is possible
(`Loop.inSync_of_quiescent`).
-/

namespace ControlPlane

variable {κ : Type} [Address κ]

/-! ### What is announced -/

/-- What a store announces is about keys that are not refused. -/
theorem Store.accepted_of_announced {s : Store κ} {c : Call} {a : Announcement}
    (mem : a ∈ (s.answer c).2.announced) : Address.refusal? κ a.record.key = none := by
  rcases s.answer_cases c with stays | ⟨change, r, announced, puts⟩ | drops
  · rw [stays.announced] at mem
    cases mem
  · rw [announced] at mem
    obtain rfl := List.mem_singleton.mp mem
    exact (filed_find? puts.found).2
  · exact (filed_find? (drops.was a mem)).2

/-- The key that an announcement concerns lies in the namespace of its record. -/
theorem Announcement.accepted_agentKey? {a : Announcement} {key : RecordKey}
    (concerns : a.agentKey? = some key) (accepted : Address.refusal? κ a.record.key = none) :
    Address.refusal? κ key = none := by
  obtain ⟨change, kind, r⟩ := a
  cases kind with
  | agent =>
    obtain rfl := Option.some.inj concerns
    exact accepted
  | function =>
    obtain ⟨name, -, rfl⟩ := Option.map_eq_some_iff.mp concerns
    exact Address.refusal?_congr (κ := κ) (a := r.key) rfl accepted
  | package => cases concerns

namespace Controller

variable {c c' : Controller} {i : Invocation}

/-- If a worker is free, it begins the invocation of the key that the queue hands out. -/
theorem begin?_eq_some_iff : c.begin? = some (i, c') ↔
    c.waiting.length < c.settings.workers.toNat ∧
      ∃ key queue, c.queue.get? = some (key, queue) ∧
        i = ⟨key, c.now + c.timeoutMs, (Reconciler.reconcile c.broker key).run⟩ ∧
        c' = { c with timed := { c.timed with queue } } := by
  constructor
  · intro h
    obtain ⟨_, guarded, h⟩ := Option.bind_eq_some_iff.mp h
    obtain ⟨⟨key, queue⟩, taken, eq⟩ := Option.bind_eq_some_iff.mp h
    obtain ⟨rfl, rfl⟩ := Prod.mk.inj (Option.some.inj eq)
    refine ⟨?_, key, queue, taken, rfl, rfl⟩
    by_contra busy
    rw [guard, if_neg busy] at guarded
    cases guarded
  · rintro ⟨free, key, queue, taken, rfl, rfl⟩
    rw [begin?, guard, if_pos free]
    exact Option.bind_eq_some_iff.mpr ⟨_, rfl, Option.bind_eq_some_iff.mpr ⟨_, taken, rfl⟩⟩

/-- A success is forgotten about, a failure is counted and tried again. -/
theorem note_cases (c : Controller) (key : RecordKey) (result : InvocationResult) :
    ((∃ x, result = .ok x) ∧ (c.note key result).timed = c.timed.modify (·.forget key)) ∨
      ((∃ e, result = .error e) ∧ (c.note key result).timed = (c.timed.addRateLimited key).2) := by
  cases result with
  | ok x => exact .inl ⟨⟨x, rfl⟩, rfl⟩
  | error e => exact .inr ⟨⟨e, rfl⟩, rfl⟩

@[simp] theorem broker_note (c : Controller) (key : RecordKey) (result : InvocationResult) :
    (c.note key result).broker = c.broker := by
  cases result <;> rfl

end Controller

namespace Loop

open Reconciler (Settles Synced)

/-! ### The invariant -/

/-- A notice for the key is on its way: it is due, or what was announced concerns it. -/
def Triggered (l : Loop κ) (key : RecordKey) : Prop :=
  l.controller.timed.Due key ∨ ∃ a ∈ l.channel, a.agentKey? = some key

/-- An invocation for the key will leave its agent in sync, unless a notice comes first. -/
def Settling (broker : BrokerSettings) (l : Loop κ) (key : RecordKey) : Prop :=
  ∃ i ∈ l.controller.waiting, i.key = key ∧ Settles broker key i.rest l.store

/-- The loop knows of the key. -/
def Mentions (l : Loop κ) (key : RecordKey) : Prop :=
  l.controller.timed.Awaits key ∨ key ∈ l.held ∨ (∃ a ∈ l.channel, a.agentKey? = some key) ∨
    key ∈ l.listed

/-- What is kept by every step. -/
structure Sound (broker : BrokerSettings) (l : Loop κ) : Prop where
  settings : l.controller.broker = broker
  disciplined : l.controller.queue.Disciplined l.held
  accepted : ∀ key, l.Mentions key → Address.refusal? κ key = none
  waiting : ∀ i ∈ l.controller.waiting,
    i.rest.MakesOnly κ (Call.Own i.key) ∧ i.rest.GivesUp
  abandoned : ∀ c ∈ l.abandoned, Store.Allowed κ c
  accounted : ∀ key, Address.refusal? κ key = none →
    l.Triggered key ∨ l.Settling broker key ∨ Synced broker l.store key

namespace Sound

variable {broker : BrokerSettings} {l : Loop κ} {key : RecordKey}

/-- An invocation that waits is for a key that is not refused. -/
theorem accepted_of_waiting (sound : l.Sound broker) {i : Invocation}
    (mem : i ∈ l.controller.waiting) : Address.refusal? κ i.key = none :=
  sound.accepted i.key (.inr (.inl (List.mem_append_left _ (List.mem_map_of_mem mem))))

/-- The call that an invocation waits for is one that it may make. -/
theorem allowed_of_waiting (sound : l.Sound broker) {i : Invocation} {c : Call}
    {resume : c.Outcome → Routine InvocationResult} (mem : i ∈ l.controller.waiting)
    (rest : i.rest = .call c resume) : Store.Allowed κ c := by
  have makes := (sound.waiting i mem).1
  rw [rest] at makes
  exact .inr ⟨i.key, sound.accepted_of_waiting mem, makes.1⟩

/-! ### Calls -/

/-- What the loop knows of after a call is what it knew of, or was announced. -/
theorem accepted_answered (sound : l.Sound broker) (c : Call)
    (mentions : (l.answered c).Mentions key) : Address.refusal? κ key = none := by
  rcases mentions with awaits | held | ⟨a, mem, concerns⟩ | listed
  · exact sound.accepted key (.inl awaits)
  · exact sound.accepted key (.inr (.inl held))
  · rcases List.mem_append.mp mem with old | new
    · exact sound.accepted key (.inr (.inr (.inl ⟨a, old, concerns⟩)))
    · exact Announcement.accepted_agentKey? concerns (Store.accepted_of_announced new)
  · exact sound.accepted key (.inr (.inr (.inr listed)))

theorem Triggered.answered {l : Loop κ} (triggered : l.Triggered key) (c : Call) :
    (l.answered c).Triggered key :=
  triggered.imp_right fun ⟨a, mem, concerns⟩ => ⟨a, List.mem_append_left _ mem, concerns⟩

/-- A call by others on agents, or one that was given up, is carried out. -/
theorem answered (sound : l.Sound broker) {c : Call} (allowed : Store.Allowed κ c)
    (kept : l.store.ToolsKept (l.answered c).store) : (l.answered c).Sound broker where
  settings := sound.settings
  disciplined := sound.disciplined
  accepted _ mentions := sound.accepted_answered c mentions
  waiting := sound.waiting
  abandoned := sound.abandoned
  accounted key accepted := by
    rcases Store.noticed_or_unnoticed allowed accepted kept with ⟨a, mem, concerns⟩ | unnoticed
    · exact .inl (.inr ⟨a, List.mem_append_right _ mem, concerns⟩)
    · rcases sound.accounted key accepted with triggered | ⟨i, mem, here, settles⟩ | synced
      · exact .inl (Triggered.answered triggered c)
      · exact .inr (.inl ⟨i, mem, here, settles.drift unnoticed⟩)
      · exact .inr (.inr (synced.unnoticed accepted unnoticed))

/-- The keys that are held stay so when an invocation goes on. -/
theorem held_perm {i j : Invocation} {others : List Invocation}
    (perm : l.controller.waiting.Perm (i :: others)) (same : j.key = i.key) :
    l.held.Perm ((j :: others).map Invocation.key ++ l.returned) := by
  refine List.Perm.append_right l.returned ?_
  rw [List.map_cons, same]
  exact perm.map Invocation.key

/-- An invocation goes on, if every key is still accounted for. -/
theorem resumed (sound : l.Sound broker) {i j : Invocation} {others : List Invocation}
    (perm : l.controller.waiting.Perm (i :: others)) (same : j.key = i.key)
    (makes : j.rest.MakesOnly κ (Call.Own j.key) ∧ j.rest.GivesUp)
    (accounted : ∀ key, Address.refusal? κ key = none → l.Triggered key ∨
      (l.withWaiting (j :: others)).Settling broker key ∨ Synced broker l.store key) :
    (l.withWaiting (j :: others)).Sound broker := by
  have held := held_perm perm same
  refine ⟨sound.settings, sound.disciplined.perm held, fun key mentions => ?_, ?_,
    sound.abandoned, accounted⟩
  · refine sound.accepted key (mentions.imp_right (Or.imp_left fun mem => ?_))
    exact held.mem_iff.mpr mem
  · intro k mem
    rcases List.mem_cons.mp mem with rfl | mem
    · exact makes
    · exact sound.waiting k (perm.mem_iff.mpr (List.mem_cons_of_mem _ mem))

/-- Other calls were given up. -/
theorem withAbandoned (sound : l.Sound broker) {abandoned : List Call}
    (allowed : ∀ c ∈ abandoned, Store.Allowed κ c) : Sound broker { l with abandoned } :=
  { sound with
    accepted := fun key mentions => sound.accepted key mentions
    abandoned := allowed }

/-- An invocation's call is answered. -/
theorem called (sound : l.Sound broker) {i : Invocation} {others : List Invocation} {c : Call}
    {resume : c.Outcome → Routine InvocationResult}
    (perm : l.controller.waiting.Perm (i :: others)) (rest : i.rest = .call c resume)
    (kept : l.store.ToolsKept (l.answered c).store) :
    ((l.answered c).withWaiting
      ({ i with rest := resume (l.store.answer c).1 } :: others)).Sound broker := by
  have mem : i ∈ l.controller.waiting := perm.mem_iff.mpr List.mem_cons_self
  have allowed := sound.allowed_of_waiting mem rest
  obtain ⟨makes, givesUp⟩ := sound.waiting i mem
  rw [rest] at makes givesUp
  refine (sound.answered allowed kept).resumed perm rfl ⟨makes.2 l.store, givesUp.2 _⟩ ?_
  intro key accepted
  -- An announced call triggers the key; any other one leaves in force what accounts for the key.
  by_cases noticed : ∃ a ∈ (l.store.answer c).2.announced, a.agentKey? = some key
  · obtain ⟨a, m, concerns⟩ := noticed
    exact .inl (.inr ⟨a, List.mem_append_right _ m, concerns⟩)
  · have unnoticed := (Store.noticed_or_unnoticed allowed accepted kept).resolve_left noticed
    rcases sound.accounted key accepted with triggered | ⟨j, m, here, settles⟩ | synced
    · exact .inl (Triggered.answered triggered c)
    · rcases List.mem_cons.mp (perm.mem_iff.mp m) with rfl | m
      · have quiet : ∀ a ∈ (l.store.answer c).2.announced, a.agentKey? ≠ some key :=
          fun a m concerns => noticed ⟨a, m, concerns⟩
        rw [Settles, Reconciler.SucceedsIn, rest] at settles
        exact .inr (.inl ⟨_, List.mem_cons_self, here,
          (settles l.store (.refl key l.store) _ _ ⟨rfl, rfl, quiet⟩).2⟩)
      · exact .inr (.inl ⟨j, List.mem_cons_of_mem _ m, here, settles.drift unnoticed⟩)
    · exact .inr (.inr (synced.unnoticed accepted unnoticed))

/-- An invocation gives its call up and fails. -/
theorem gaveUp (sound : l.Sound broker) {i : Invocation} {others : List Invocation} {c : Call}
    {resume : c.Outcome → Routine InvocationResult}
    (perm : l.controller.waiting.Perm (i :: others)) (rest : i.rest = .call c resume) :
    Sound broker { l.withWaiting ({ i with rest := i.rest.giveUp } :: others) with
      abandoned := c :: l.abandoned } := by
  have mem : i ∈ l.controller.waiting := perm.mem_iff.mpr List.mem_cons_self
  have allowed := sound.allowed_of_waiting mem rest
  have givesUp := (sound.waiting i mem).2
  rw [rest] at givesUp
  obtain ⟨⟨e, failed⟩, -⟩ := givesUp
  have ended : i.rest.giveUp = .done (.error e) := by rw [rest, Routine.giveUp, failed]
  rw [ended]
  have resumed : (l.withWaiting ({ i with rest := .done (.error e) } :: others)).Sound broker := by
    refine sound.resumed perm rfl ⟨trivial, trivial⟩ fun key accepted => ?_
    rcases sound.accounted key accepted with triggered | ⟨j, m, here, settles⟩ | synced
    · exact .inl triggered
    · rcases List.mem_cons.mp (perm.mem_iff.mp m) with rfl | m
      · exact .inr (.inl ⟨_, List.mem_cons_self, here, Reconciler.succeedsIn_error e⟩)
      · exact .inr (.inl ⟨j, List.mem_cons_of_mem _ m, here, settles⟩)
    · exact .inr (.inr synced)
  exact resumed.withAbandoned (List.forall_mem_cons.mpr ⟨allowed, sound.abandoned⟩)

/-! ### Notices -/

/-- A step that changes no more than the queue, the alarms and what is known of keys. -/
theorem of_notices (sound : l.Sound broker) {l' : Loop κ} (store : l'.store = l.store)
    (waiting : l'.controller.waiting = l.controller.waiting)
    (settings : l'.controller.broker = l.controller.broker)
    (abandoned : l'.abandoned = l.abandoned)
    (disciplined : l'.controller.queue.Disciplined l'.held)
    (mentions : ∀ key, l'.Mentions key → l.Mentions key ∨ Address.refusal? κ key = none)
    (triggers : ∀ key, l.Triggered key → l'.Triggered key) : l'.Sound broker where
  settings := settings.trans sound.settings
  disciplined := disciplined
  accepted key mentioned := (mentions key mentioned).elim (sound.accepted key) id
  waiting := by
    rw [waiting]
    exact sound.waiting
  abandoned := by
    rw [abandoned]
    exact sound.abandoned
  accounted key accepted := by
    rw [Settling, waiting, store]
    exact (sound.accounted key accepted).imp_left (triggers key)

/-- Keys are added, and what gave notice of them is forgotten. -/
theorem added (sound : l.Sound broker) {keys : List RecordKey} {alarms : List Alarm}
    {channel : List Announcement} {listed : List RecordKey}
    (known : ∀ key ∈ keys, l.Mentions key)
    (alarmsLeft : ∀ a ∈ alarms, a ∈ l.controller.timed.alarms)
    (channelLeft : ∀ a ∈ channel, a ∈ l.channel) (listedLeft : ∀ key ∈ listed, key ∈ l.listed)
    (alarmsGone : ∀ a ∈ l.controller.timed.alarms, a ∈ alarms ∨ a.key ∈ keys)
    (channelGone : ∀ a ∈ l.channel, a ∈ channel ∨ ∀ key, a.agentKey? = some key → key ∈ keys) :
    Sound broker { l.withTimed { l.controller.timed with
        queue := l.controller.queue.addAll keys, alarms } with
      channel, listed } := by
  refine sound.of_notices rfl rfl rfl rfl (sound.disciplined.addAll keys) (fun key mentions => ?_)
    fun key triggered => ?_
  · rcases mentions with (pending | ⟨a, mem, here⟩) | held | ⟨a, mem, concerns⟩ | mem
    · rcases WorkQueue.mem_pending_of_addAll pending with old | new
      · exact .inl (.inl (.inl old))
      · exact .inl (known key new)
    · exact .inl (.inl (.inr ⟨a, alarmsLeft a mem, here⟩))
    · exact .inl (.inr (.inl held))
    · exact .inl (.inr (.inr (.inl ⟨a, channelLeft a mem, concerns⟩)))
    · exact .inl (.inr (.inr (.inr (listedLeft key mem))))
  · have dirty : key ∈ keys ∨ l.controller.queue.dirty.contains key = true →
        (l.controller.queue.addAll keys).dirty.contains key = true :=
      (WorkQueue.dirty_addAll_iff sound.disciplined).mpr
    rcases triggered with (old | ⟨a, mem, rfl⟩) | ⟨a, mem, concerns⟩
    · exact .inl (.inl (dirty (.inr old)))
    · rcases alarmsGone a mem with left | gone
      · exact .inl (.inr ⟨a, left, rfl⟩)
      · exact .inl (.inl (dirty (.inl gone)))
    · rcases channelGone a mem with left | gone
      · exact .inr ⟨a, left, concerns⟩
      · exact .inl (.inl (dirty (.inl (gone key concerns))))

/-- A key is released. -/
theorem released (sound : l.Sound broker) {returned : List RecordKey}
    (perm : l.returned.Perm (key :: returned)) :
    Sound broker { l.withTimed (l.controller.timed.modify (·.release key)) with returned } := by
  have held : l.held.Perm (key :: (l.controller.waiting.map Invocation.key ++ returned)) :=
    (List.Perm.append_left _ perm).trans List.perm_middle
  refine sound.of_notices rfl rfl rfl rfl (sound.disciplined.perm held).release
    (fun k mentions => .inl ?_) fun k triggered => triggered
  have isHeld : l.Mentions key := .inr (.inl (held.mem_iff.mpr List.mem_cons_self))
  rcases mentions with (pending | alarm) | mem | rest
  · rcases WorkQueue.mem_pending_of_release pending with old | rfl
    · exact .inl (.inl old)
    · exact isHeld
  · exact .inl (.inr alarm)
  · exact .inr (.inl (held.mem_iff.mpr (List.mem_cons_of_mem _ mem)))
  · exact .inr (.inr rest)

/-! ### Invocations -/

/-- A worker begins the invocation of the next key. -/
theorem begins (sound : l.Sound broker) {i : Invocation} {c : Controller}
    (begins : l.controller.begin? = some (i, c)) :
    Sound broker { l with controller := c.hold i } := by
  obtain ⟨-, key, queue, given, begun, rfl⟩ := Controller.begin?_eq_some_iff.mp begins
  have taken := (WorkQueue.get?_eq_some_iff.mp given).2
  have rest : i.rest = (Reconciler.reconcile l.controller.broker key).run := by rw [begun]
  obtain rfl : i.key = key := by rw [begun]
  obtain ⟨disciplined, pending, sub, others⟩ := sound.disciplined.take taken
  rw [sound.settings] at rest
  have accepted : Address.refusal? κ i.key = none := sound.accepted i.key (.inl (.inl pending))
  have held : (i.key :: l.held).Perm
      ((l.controller.waiting ++ [i]).map Invocation.key ++ l.returned) := by
    rw [List.map_append, List.map_cons, List.map_nil, List.append_assoc]
    exact List.perm_middle.symm
  refine ⟨sound.settings, disciplined.perm held, fun k mentions => ?_, fun j mem => ?_,
    sound.abandoned, fun k accepted' => ?_⟩
  · rcases mentions with (mem | alarm) | mem | rest
    · exact sound.accepted k (.inl (.inl (sub k mem)))
    · exact sound.accepted k (.inl (.inr alarm))
    · rcases List.mem_cons.mp (held.mem_iff.mpr mem) with rfl | mem
      · exact accepted
      · exact sound.accepted k (.inr (.inl mem))
    · exact sound.accepted k (.inr (.inr rest))
  · rcases List.mem_append.mp mem with old | new
    · exact sound.waiting j old
    · obtain rfl := List.mem_singleton.mp new
      rw [rest]
      exact ⟨Reconciler.makesOnly_reconcile broker accepted,
        Reconciler.givesUp_reconcile broker j.key⟩
  · by_cases here : k = i.key
    -- The key may not be dirty any more; from now on its invocation accounts for it.
    · subst here
      refine .inr (.inl ⟨i, List.mem_append_right _ (List.mem_singleton_self i), rfl, ?_⟩)
      rw [rest]
      exact Reconciler.reconcile_settles broker accepted l.store
    · rcases sound.accounted k accepted' with ((dirty | alarm) | announced) |
          ⟨j, mem, same, settles⟩ | synced
      · exact .inl (.inl (.inl ((others k here).mpr dirty)))
      · exact .inl (.inl (.inr alarm))
      · exact .inl (.inr announced)
      · exact .inr (.inl ⟨j, List.mem_append_left _ mem, same, settles⟩)
      · exact .inr (.inr synced)

/-- The outcome of an invocation is taken note of. -/
theorem noted (sound : l.Sound broker) {i : Invocation} {others : List Invocation}
    {result : InvocationResult} (perm : l.controller.waiting.Perm (i :: others))
    (rest : i.rest = .done result) :
    Sound broker { l with
      controller := { l.controller.note i.key result with waiting := others }
      returned := i.key :: l.returned } := by
  have held : l.held.Perm (others.map Invocation.key ++ i.key :: l.returned) :=
    (held_perm perm rfl).trans List.perm_middle.symm
  have disciplined : (l.controller.note i.key result).queue.Disciplined l.held := by
    rcases l.controller.note_cases i.key result with ⟨-, timed⟩ | ⟨-, timed⟩
    · rw [Controller.queue, timed]
      exact sound.disciplined.forget i.key
    · rw [Controller.queue, timed]
      exact TimedQueue.disciplined_addRateLimited sound.disciplined i.key
  have due : ∀ k, l.controller.timed.Due k → (l.controller.note i.key result).timed.Due k := by
    intro k due
    rcases l.controller.note_cases i.key result with ⟨-, timed⟩ | ⟨-, timed⟩
    · rw [timed]
      exact due
    · rw [timed]
      exact (TimedQueue.due_addRateLimited_iff sound.disciplined).mpr (.inr due)
  have awaits : ∀ k, (l.controller.note i.key result).timed.Awaits k →
      k = i.key ∨ l.controller.timed.Awaits k := by
    intro k awaits
    rcases l.controller.note_cases i.key result with ⟨-, timed⟩ | ⟨-, timed⟩
    · rw [timed] at awaits
      exact .inr awaits
    · rw [timed] at awaits
      exact TimedQueue.awaits_of_addRateLimited awaits
  have mem : i ∈ l.controller.waiting := perm.mem_iff.mpr List.mem_cons_self
  refine ⟨(Controller.broker_note ..).trans sound.settings, disciplined.perm held,
    fun k mentions => ?_, fun j m => ?_, sound.abandoned, fun k accepted => ?_⟩
  · rcases mentions with waits | m | rest
    · rcases awaits k waits with rfl | old
      · exact sound.accepted_of_waiting mem
      · exact sound.accepted k (.inl old)
    · exact sound.accepted k (.inr (.inl (held.mem_iff.mpr m)))
    · exact sound.accepted k (.inr (.inr rest))
  · exact sound.waiting j (perm.mem_iff.mpr (List.mem_cons_of_mem _ m))
  · rcases sound.accounted k accepted with (isDue | announced) | ⟨j, m, rfl, settles⟩ | synced
    · exact .inl (.inl (due k isDue))
    · exact .inl (.inr announced)
    · rcases List.mem_cons.mp (perm.mem_iff.mp m) with rfl | m
      · rcases l.controller.note_cases j.key result with ⟨⟨x, rfl⟩, -⟩ | ⟨-, timed⟩
        -- A success without a notice left the agent in sync; a failure makes the key due again.
        · rw [Settles, Reconciler.SucceedsIn, rest] at settles
          exact .inr (.inr (settles l.store (.refl j.key l.store) x rfl))
        · refine .inl (.inl ?_)
          rw [timed]
          exact (TimedQueue.due_addRateLimited_iff sound.disciplined).mpr (.inl rfl)
      · exact .inr (.inl ⟨j, m, rfl, settles⟩)
    · exact .inr (.inr synced)

end Sound

end Loop

end ControlPlane
