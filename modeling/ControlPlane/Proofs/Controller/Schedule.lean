import ControlPlane.Controller.Running
import ControlPlane.Proofs.Controller.Delivery
import Mathlib.Logic.Relation

/-!
A running controller is one schedule of the loop: it starts as a loop does (`Loop.reached_of_start`),
and whatever it does as time passes the loop can do by moves (`Running.gets_advanceTo`,
`Loop.moves_of_continues`), as long as interceptors only let others act on agents or stall calls, and
no announcement is lost.
-/

namespace ControlPlane

open Loop (ActsOnAgents)

variable {α β κ : Type} [Address κ]

/-! ### Others -/

theorem Loop.ActsOnAgents.trans {s t u : Store κ} {announced announced' : List Announcement}
    (acts : ActsOnAgents s t announced) (later : ActsOnAgents t u announced') :
    ActsOnAgents s u (announced ++ announced') := by
  induction acts with
  | nil s => exact later
  | cons c agents _ ih =>
    rw [List.append_assoc]
    exact .cons c agents (ih later)

theorem Routine.MakesOnly.actsOnAgents {r : Routine α}
    (agents : r.MakesOnly κ fun c => c.kind = .agent) (s : Store κ) :
    ActsOnAgents s (r.runOn s).2.store (r.runOn s).2.announced := by
  induction r generalizing s with
  | done a => exact .nil s
  | call c resume ih =>
    rw [Routine.runOn_call]
    exact .cons c agents.1 (ih _ (agents.2 s) _)

/-! ### Worlds -/

/-- An interceptor that lets others act on agents only; the call may stall but does not fail. -/
def Interceptor.Harmless (κ : Type) [Address κ] (i : Interceptor β) : Prop :=
  (∀ make, i.fault ≠ some (.error make)) ∧
    ∀ act ∈ i.before, act.MakesOnly κ fun c => c.kind = .agent

theorem Interceptor.harmless_meet {c : Call} {l : List (Interceptor β)}
    (harmless : ∀ i ∈ l, i.Harmless κ) :
    (∀ i, (meet c l).1 = some i → i.Harmless κ) ∧ ∀ i ∈ (meet c l).2, i.Harmless κ := by
  induction l with
  | nil => exact ⟨fun i met => absurd met (by simp [meet]), fun i mem => absurd mem List.not_mem_nil⟩
  | cons i rest ih =>
    obtain ⟨here, later⟩ := List.forall_mem_cons.mp harmless
    obtain ⟨met, left⟩ := ih later
    simp only [meet]
    split
    · split
      · exact ⟨fun j eq => Option.some.inj eq ▸ here, later⟩
      · exact ⟨met, List.forall_mem_cons.mpr ⟨here, left⟩⟩
    · exact ⟨met, List.forall_mem_cons.mpr ⟨here, left⟩⟩

namespace World

variable {w v : World β κ}

/-- A world whose interceptors are harmless. -/
def Harmless (w : World β κ) : Prop := ∀ i ∈ w.interceptors, i.Harmless κ

/-- The world after something was written. -/
def after (w : World β κ) (written : Written κ) : World β κ :=
  { w with store := written.store, announced := w.announced ++ written.announced }

/-- A world in which others acted on agents, with harmless interceptors that are left. -/
structure ActedOn (w v : World β κ) : Prop where
  acts : ∃ announced, ActsOnAgents w.store v.store announced ∧
    v.announced = w.announced ++ announced
  harmless : v.Harmless

theorem ActedOn.letAct {acts : List (Routine β)} (acted : w.ActedOn v)
    (agents : ∀ act ∈ acts, act.MakesOnly κ fun c => c.kind = .agent) :
    w.ActedOn (v.letAct acts) := by
  induction acts generalizing v with
  | nil => exact acted
  | cons act rest ih =>
    obtain ⟨first, others⟩ := List.forall_mem_cons.mp agents
    obtain ⟨announced, acts, eq⟩ := acted.acts
    refine ih ⟨⟨_, acts.trans (first.actsOnAgents v.store), ?_⟩, acted.harmless⟩ others
    rw [← List.append_assoc, ← eq]
    rfl

theorem runInside_ofCall (w : World β κ) (c : Call) : w.runInside (Routine.ofCall c) =
    ((w.store.answer c).1, w.after (w.store.answer c).2) := by
  have ran : (Routine.ofCall c).runOn w.store = w.store.answer c := by
    rw [Routine.ofCall, Routine.runOn_call, Routine.runOn_done, Written.after, List.append_nil]
  show (((Routine.ofCall c).runOn w.store).1, w.after ((Routine.ofCall c).runOn w.store).2) = _
  rw [ran]

/-- Before a call others may act on agents; then the store answers it, or it stalls. -/
theorem Harmless.perform (harmless : w.Harmless) (c : Call) : ∃ v : World β κ, w.ActedOn v ∧
    (w.perform c = (some (v.store.answer c).1, v.after (v.store.answer c).2) ∨
      w.perform c = (none, v)) := by
  obtain ⟨met, left⟩ := Interceptor.harmless_meet (c := c) harmless
  let passed : World β κ := { w with interceptors := (Interceptor.meet c w.interceptors).2 }
  have start : w.ActedOn passed := ⟨⟨[], .nil w.store, (List.append_nil _).symm⟩, left⟩
  have proceeds (v : World β κ) : perform.proceed c v =
      (some (v.store.answer c).1, v.after (v.store.answer c).2) := by
    rw [perform.proceed, runInside_ofCall]
  simp only [World.perform]
  split
  · exact ⟨passed, start, .inl (proceeds passed)⟩
  · rename_i i isMet
    obtain ⟨noError, agents⟩ := met i isMet
    refine ⟨passed.letAct i.before, start.letAct agents, ?_⟩
    split
    · exact .inl (proceeds _)
    · rename_i make fault
      exact absurd fault (noError make)
    · exact .inr rfl

/-- Others may act on agents before the agents are listed; then the keys are told, or the listing
stalls. -/
theorem Harmless.list (harmless : w.Harmless) : ∃ v : World β κ, w.ActedOn v ∧
    ((Pass.agentKeys.run.pursue World.perform w = (.done (Pass.agentKeys.endOn v.store), v) ∧
        w.run Pass.agentKeys.run = (Pass.agentKeys.endOn v.store, v)) ∨
      (∃ c resume, Pass.agentKeys.run.pursue World.perform w = (.call c resume, v)) ∧
        ∃ e, w.run Pass.agentKeys.run = (.error e, v)) := by
  obtain ⟨v, acted, performed⟩ := harmless.perform (.list .agent none)
  have same : v.after (v.store.answer (.list .agent none)).2 = v := by
    show { v with announced := v.announced ++ [] } = v
    rw [List.append_nil]
  rw [same] at performed
  refine ⟨v, acted, ?_⟩
  rw [Pass.endOn_agentKeys, Pass.agentKeys_run]
  rcases performed with performed | performed
  · left
    rw [Routine.pursue, World.run, Routine.run, World.answer, performed]
    exact ⟨rfl, rfl⟩
  · right
    rw [Routine.pursue, World.run, Routine.run, World.answer, performed]
    exact ⟨⟨_, _, rfl⟩, _, rfl⟩

theorem ActedOn.announced_le (acted : w.ActedOn v) :
    w.announced.length ≤ v.announced.length := by
  obtain ⟨announced, -, eq⟩ := acted.acts
  rw [eq, List.length_append]
  exact Nat.le_add_right _ _

/-- Interceptors that are left are harmless, and what was announced stays so. -/
theorem Harmless.pursue (harmless : w.Harmless) (r : Routine α) :
    (r.pursue World.perform w).2.Harmless ∧
      w.announced.length ≤ (r.pursue World.perform w).2.announced.length := by
  induction r generalizing w with
  | done a => exact ⟨harmless, Nat.le_refl _⟩
  | call c resume ih =>
    obtain ⟨v, acted, performed | performed⟩ := harmless.perform c
    · rw [Routine.pursue, performed]
      obtain ⟨left, grown⟩ := ih (v.store.answer c).1 (w := v.after (v.store.answer c).2)
        acted.harmless
      refine ⟨left, Nat.le_trans acted.announced_le (Nat.le_trans ?_ grown)⟩
      rw [after, List.length_append]
      exact Nat.le_add_right _ _
    · rw [Routine.pursue, performed]
      exact ⟨acted.harmless, acted.announced_le⟩

end World

namespace Loop

/-! ### What a loop leads to -/

/-- A loop gets to another by moves. -/
def Moves (l l' : Loop κ) : Prop :=
  Relation.ReflTransGen (fun l l' => ∃ m, l.step? m = some l') l l'

/-- A loop is in the state of a controller at work in a world; in which order its invocations wait
does not matter. -/
structure Shows (l : Loop κ) (w : World β κ) (seen : Nat) (c : Controller) : Prop where
  store : l.store = w.store
  channel : l.channel = w.announced.drop seen
  seen_le : seen ≤ w.announced.length
  waiting : l.controller.waiting.Perm c.waiting
  controller : l.controller = { c with waiting := l.controller.waiting }
  returned : l.returned = []
  listed : l.listed = []

/-- Moves of the loop lead to the state of a controller at work in a world. -/
def LeadsTo (l : Loop κ) (w : World β κ) (seen : Nat) (c : Controller) : Prop :=
  ∃ l', l.Moves l' ∧ l'.Shows w seen c

variable {l l' : Loop κ} {w v : World β κ} {seen seen' : Nat} {c c' : Controller}

theorem Shows.leadsTo (shows : l.Shows w seen c) : l.LeadsTo w seen c := ⟨l, .refl, shows⟩

theorem Shows.leadsTo_of_move (shows : l'.Shows w seen c) (m : Move)
    (moved : l.step? m = some l') : l.LeadsTo w seen c := ⟨l', .single ⟨m, moved⟩, shows⟩

theorem LeadsTo.trans (h : l.LeadsTo w seen c)
    (next : ∀ l' : Loop κ, l'.Shows w seen c → l'.LeadsTo v seen' c') : l.LeadsTo v seen' c' := by
  obtain ⟨t, moved, shows⟩ := h
  obtain ⟨u, moved', shows'⟩ := next t shows
  exact ⟨u, moved.trans moved', shows'⟩

theorem Shows.withWaiting {waiting waiting' : List Invocation} (shows : l.Shows w seen c)
    (perm : waiting.Perm waiting') :
    (l.withWaiting waiting).Shows w seen { c with waiting := waiting' } := by
  refine { shows with waiting := perm, controller := ?_ }
  show { l.controller with waiting } = { c with waiting }
  rw [shows.controller]

theorem Shows.timed (shows : l.Shows w seen c) : l.controller.timed = c.timed := by
  rw [shows.controller]

theorem Shows.withTimed (shows : l.Shows w seen c) (timed : TimedQueue) :
    (l.withTimed timed).Shows w seen { c with timed } := by
  refine { shows with controller := ?_ }
  show { l.controller with timed } = { c with timed, waiting := l.controller.waiting }
  rw [shows.controller]

theorem Shows.enqueued (shows : l.Shows w seen c) (keys : List RecordKey) :
    Shows { l with controller := l.controller.enqueue keys } w seen (c.enqueue keys) := by
  rw [Controller.enqueue, Controller.enqueue, shows.timed]
  exact shows.withTimed _

/-- An invocation that waits can be picked. -/
theorem Shows.pick {i : Invocation} {others : List Invocation}
    (shows : l.Shows w seen { c with waiting := i :: others }) :
    ∃ n rest, pick? l.controller.waiting n = some (i, rest) ∧ rest.Perm others := by
  have mem : i ∈ l.controller.waiting := shows.waiting.mem_iff.mpr List.mem_cons_self
  obtain ⟨n, lt, rfl⟩ := List.getElem_of_mem mem
  have picked : pick? l.controller.waiting n =
      some (l.controller.waiting[n], l.controller.waiting.eraseIdx n) := by
    rw [pick?, List.getElem?_eq_getElem lt, Option.map_some]
  exact ⟨n, _, picked, ((perm_of_pick? picked).symm.trans shows.waiting).cons_inv⟩

/-! ### Calls -/

theorem Shows.answered (shows : l.Shows w seen c) (call : Call) :
    (l.answered call).Shows (w.after (w.store.answer call).2) seen c := by
  refine { shows with store := ?_, channel := ?_, seen_le := ?_ }
  · show (l.store.answer call).2.store = _
    rw [shows.store]
    rfl
  · show l.channel ++ (l.store.answer call).2.announced = _
    rw [shows.store, shows.channel]
    exact (List.drop_append_of_le_length shows.seen_le).symm
  · rw [World.after, List.length_append]
    exact Nat.le_add_right_of_le shows.seen_le

/-- What others do to agents are moves. -/
theorem Shows.acted (shows : l.Shows w seen c) (acted : w.ActedOn v) : l.LeadsTo v seen c := by
  obtain ⟨announced, acts, eq⟩ := acted.acts
  -- The induction is on the acts, so the loop and the world vary with the store they begin on.
  have along {s t : Store κ} {new : List Announcement} (acts : ActsOnAgents s t new) :
      ∀ (l : Loop κ) (u : World β κ), u.store = s → l.Shows u seen c →
        l.LeadsTo { v with store := t, announced := u.announced ++ new } seen c := by
    induction acts with
    | nil s =>
      rintro l u rfl shows
      rw [List.append_nil]
      exact Shows.leadsTo { shows with }
    | cons call agents _ ih =>
      rintro l u rfl shows
      have leads := (shows.answered call).leadsTo_of_move (.act call) (if_pos agents)
      rw [← List.append_assoc]
      exact leads.trans fun l' shows' => ih l' _ rfl shows'
  have leads := along acts l w rfl shows
  rwa [← eq] at leads

/-! ### Invocations -/

/-- A worker begins an invocation. -/
theorem Shows.begins {i : Invocation} (shows : l.Shows w seen c)
    (begins : c.begin? = some (i, c')) :
    l.LeadsTo w seen { c' with waiting := i :: c'.waiting } := by
  obtain ⟨free, key, queue, taken, iEq, rfl⟩ := Controller.begin?_eq_some_iff.mp begins
  rw [← shows.waiting.length_eq] at free
  let next : Controller :=
    { c with timed := { c.timed with queue }, waiting := l.controller.waiting }
  have begun : l.controller.begin? = some (i, next) := by
    rw [shows.controller]
    exact Controller.begin?_eq_some_iff.mpr ⟨free, key, queue, taken, iEq, rfl⟩
  have moved : l.step? .begin = some { l with controller := next.hold i } :=
    Option.map_eq_some_iff.mpr ⟨_, begun, rfl⟩
  refine ⟨_, .single ⟨_, moved⟩, { shows with waiting := ?_, controller := rfl }⟩
  exact (List.perm_append_singleton i l.controller.waiting).trans (shows.waiting.cons i)

/-- An invocation goes on as far as the store answers. -/
theorem Shows.pursued {key : RecordKey} {deadline : Nat} {r : Routine InvocationResult}
    {others : List Invocation}
    (shows : l.Shows w seen { c with waiting := ⟨key, deadline, r⟩ :: others })
    (harmless : w.Harmless) :
    l.LeadsTo (r.pursue World.perform w).2 seen
      { c with waiting := ⟨key, deadline, (r.pursue World.perform w).1⟩ :: others } := by
  induction r generalizing l w with
  | done result => exact shows.leadsTo
  | call next resume ih =>
    obtain ⟨v, acted, performed | performed⟩ := harmless.perform next
    · rw [Routine.pursue, performed]
      refine (shows.acted acted).trans fun t shows => ?_
      obtain ⟨n, rest, picked, perm⟩ := shows.pick
      have shows' := (shows.answered next).withWaiting
        (perm.cons ⟨key, deadline, resume (t.store.answer next).1⟩)
      have leads := shows'.leadsTo_of_move (l := t) (.call n) (by
        simp only [step?, picked, Option.bind_eq_bind, Option.bind_some])
      rw [shows.store] at leads
      exact leads.trans fun u shows => ih _ shows acted.harmless
    · rw [Routine.pursue, performed]
      exact shows.acted acted

/-- An invocation that has ended is taken note of, and its key is released. -/
theorem Shows.settled {i : Invocation} {others : List Invocation} {result : InvocationResult}
    (shows : l.Shows w seen { c with waiting := i :: others }) (ended : i.rest = .done result) :
    l.LeadsTo w seen ({ c with waiting := others }.settle i.key result) := by
  obtain ⟨n, rest, picked, perm⟩ := shows.pick
  let noted : Loop κ := { l with
    controller := { l.controller.note i.key result with waiting := rest }
    returned := [i.key] }
  have moved : l.step? (.note n) = some noted := by
    simp only [step?, picked, ended, Option.bind_eq_bind, Option.bind_some]
    rw [shows.returned]
  have moved' : noted.step? (.release 0) = some
      { noted.withTimed (noted.controller.timed.modify (·.release i.key)) with returned := [] } :=
    rfl
  refine ⟨_, (Relation.ReflTransGen.single ⟨_, moved⟩).tail ⟨_, moved'⟩, ?_⟩
  refine { shows with waiting := ?_, controller := ?_, returned := rfl }
  · cases result <;> exact perm
  · show { l.controller.settle i.key result with waiting := rest } =
      { { c with waiting := others }.settle i.key result with waiting := rest }
    rw [shows.controller]
    cases result <;> rfl

/-! ### What a running controller does -/

variable {r r' : Running β κ} {settings : ControllerSettings} {broker : BrokerSettings}

/-- A controller starts as a loop does, with nothing that waits for the store. -/
theorem reached_of_start {w' : World β κ} (harmless : w.Harmless)
    (started : Running.start w (.idle settings broker) = (.ok r, w')) :
    (∃ l, Reached settings broker l ∧ l.Shows r.world r.seen r.controller) ∧
      r.world.Harmless ∧ r.controller.waiting = [] := by
  obtain ⟨v, acted, ⟨-, ran⟩ | ⟨-, e, ran⟩⟩ := harmless.list
  · obtain ⟨announced, acts, eq⟩ := acted.acts
    simp only [Running.start, ran] at started
    cases listed : Pass.agentKeys.endOn v.store with
    | error e =>
      rw [listed] at started
      cases started
    | ok keys =>
      rw [listed] at started
      obtain rfl := Except.ok.inj (Prod.mk.inj started).1
      refine ⟨⟨_, .begun acts listed (.nil v.store), rfl, ?_, ?_, .refl _, rfl, rfl, rfl⟩,
        acted.harmless, rfl⟩
      · show announced ++ [] = v.announced.drop w.announced.length
        rw [eq, List.drop_left, List.append_nil]
      · exact acted.announced_le
  · simp only [Running.start, ran] at started
    cases started

/-- A worker that has begun an invocation goes on with it as far as the store answers. -/
theorem Shows.worked {i : Invocation} (shows : l.Shows w seen c) (harmless : w.Harmless)
    (begins : c.begin? = some (i, c')) :
    l.LeadsTo (i.rest.pursue World.perform w).2 seen
      { c' with waiting :=
        { i with rest := (i.rest.pursue World.perform w).1 } :: c'.waiting } :=
  (shows.begins begins).trans fun _ shows => shows.pursued harmless

/-- An announcement is dispatched, if none was lost. -/
theorem Shows.dispatched (shows : l.Shows r.world r.seen r.controller)
    (kept : r.world.announced.length ≤ r.seen + Running.channelCapacity)
    (dispatched : r.dispatch? = some r') : l.LeadsTo r'.world r'.seen r'.controller := by
  simp only [Running.dispatch?] at dispatched
  split at dispatched
  · rename_i a _ next
    rw [if_neg (Nat.not_lt.mpr kept)] at dispatched
    obtain rfl := Option.some.inj dispatched
    obtain ⟨lt, rfl⟩ := List.getElem?_eq_some_iff.mp next
    have channel := shows.channel
    rw [List.drop_eq_getElem_cons lt] at channel
    have moved : l.step? (.dispatch 0) = some { l with
        channel := r.world.announced.drop (r.seen + 1)
        controller := l.controller.notice r.world.announced[r.seen] } := by
      rw [step?, channel]
      rfl
    exact ⟨_, .single ⟨_, moved⟩, { shows.enqueued _ with channel := rfl, seen_le := lt }⟩
  · cases dispatched

/-- Keys that were listed are added, one after another. -/
theorem moves_add (l : Loop κ) (keys : List RecordKey) : Moves { l with listed := keys }
    { l with listed := [], controller := l.controller.enqueue keys } := by
  induction keys generalizing l with
  | nil => exact .refl
  | cons key rest ih =>
    exact .head ⟨.add 0, rfl⟩ (ih { l with controller := l.controller.enqueue [key] })

/-- All agents are listed and added. -/
theorem Shows.resynced (shows : l.Shows r.world r.seen r.controller)
    (harmless : r.world.Harmless) :
    l.LeadsTo r.resync.world r.resync.seen r.resync.controller := by
  obtain ⟨v, acted, ⟨pursued, -⟩ | ⟨⟨c, resume, pursued⟩, -⟩⟩ := harmless.list
  · simp only [Running.resync, pursued]
    refine (shows.acted acted).trans fun t shows => ?_
    cases listed : Pass.agentKeys.endOn v.store with
    | error e => exact shows.leadsTo
    | ok keys =>
      have moved : t.step? .list = some { t with listed := keys } := by
        rw [← shows.store] at listed
        simp only [step?, listed, shows.listed, List.nil_append]
      exact ⟨_, .head ⟨_, moved⟩ (moves_add t keys), { shows.enqueued keys with listed := rfl }⟩
  · simp only [Running.resync, pursued]
    exact shows.acted acted

/-- An invocation whose deadline has come is given up. -/
theorem Shows.expired {i : Invocation} (shows : l.Shows r.world r.seen
      { r.controller with waiting := i :: r.controller.waiting })
    (givesUp : i.rest.GivesUp) :
    l.LeadsTo (r.expire i).world (r.expire i).seen (r.expire i).controller := by
  cases rest : i.rest with
  | done result =>
    rw [Running.expire, rest]
    exact shows.settled rest
  | call c resume =>
    rw [rest] at givesUp
    obtain ⟨⟨e, failed⟩, -⟩ := givesUp
    have ended : i.rest.giveUp = .done (.error e) := by rw [rest, Routine.giveUp, failed]
    obtain ⟨n, others, picked, perm⟩ := shows.pick
    have moved : l.step? (.giveUp n) = some
        { l.withWaiting ({ i with rest := i.rest.giveUp } :: others) with
          abandoned := c :: l.abandoned } := by
      simp only [step?, picked, rest, Option.bind_eq_bind, Option.bind_some]
    let given : Invocation := { i with rest := i.rest.giveUp }
    have leads : l.LeadsTo r.world r.seen
        { r.controller with waiting := given :: r.controller.waiting } :=
      ⟨_, .single ⟨_, moved⟩, { shows.withWaiting (perm.cons given) with }⟩
    rw [Running.expire, ended]
    exact leads.trans fun t shows => shows.settled (i := given) ended

/-- Alarms of a sort go off in their order, and the others stay. -/
theorem moves_alarm (l : Loop κ) (p : Alarm → Bool) (kept alarms : List Alarm) :
    Moves (l.withTimed { l.controller.timed with alarms := kept ++ alarms })
      (l.withTimed { l.controller.timed with
        queue := (alarms.filter p).foldl (fun q a => q.add a.key) l.controller.queue
        alarms := kept ++ alarms.filter (not ∘ p) }) := by
  induction alarms generalizing l kept with
  | nil => exact .refl
  | cons a rest ih =>
    cases due : p a with
    | true =>
      have picked : pick? (kept ++ a :: rest) kept.length = some (a, kept ++ rest) := by
        simp [pick?, List.eraseIdx_append_of_length_le]
      let next : Loop κ := l.withTimed { l.controller.timed with
        queue := l.controller.queue.add a.key }
      have moved : (l.withTimed { l.controller.timed with alarms := kept ++ a :: rest }).step?
          (.alarm kept.length) = some (next.withTimed { next.controller.timed with
            alarms := kept ++ rest }) :=
        Option.map_eq_some_iff.mpr ⟨_, picked, rfl⟩
      rw [List.filter_cons_of_pos due, List.filter_cons_of_neg (by simp [due])]
      exact .head ⟨_, moved⟩ (ih next kept)
    | false =>
      rw [List.filter_cons_of_neg (by simp [due]), List.filter_cons_of_pos (by simp [due]),
        List.append_cons, List.append_cons kept a (rest.filter _)]
      exact ih l (kept ++ [a])

/-- Time passes, and the alarms that are due go off. -/
theorem Shows.slept (shows : l.Shows w seen c) (time : Nat) :
    l.LeadsTo w seen { c with timed := c.timed.sleepUntil time } := by
  have rung := moves_alarm l (·.due ≤ time) [] l.controller.timed.alarms
  refine ⟨_, rung.tail ⟨.wait (max l.controller.now time), ?_⟩, shows.withTimed _⟩
  rw [TimedQueue.sleepUntil, List.partition_eq_filter_filter, ← shows.timed]
  rfl

end Loop

/-! ### Runs -/

/-- A routine that gives up has ended, or fails at once. -/
theorem Routine.GivesUp.giveUp_eq {ε : Type} {r : Routine (Except ε α)} (givesUp : r.GivesUp) :
    ∃ result, r.giveUp = .done result := by
  cases r with
  | done result => exact ⟨result, rfl⟩
  | call c resume =>
    obtain ⟨⟨e, failed⟩, -⟩ := givesUp
    exact ⟨_, failed⟩

/-- What is left of a routine that gives up does so as well. -/
theorem Routine.GivesUp.pursue {ε ω : Type} {r : Routine (Except ε α)} (givesUp : r.GivesUp)
    (answer? : (c : Call) → ω → Option c.Outcome × ω) (w : ω) : (r.pursue answer? w).1.GivesUp := by
  induction r generalizing w with
  | done a => trivial
  | call c resume ih =>
    rw [Routine.pursue]
    split
    · exact ih _ (givesUp.2 _) _
    · exact givesUp

theorem Controller.waiting_settle (c : Controller) (key : RecordKey) (result : InvocationResult) :
    (c.settle key result).waiting = c.waiting := by
  cases result <;> rfl

namespace Running

variable {r r' r'' : Running β κ} {i : Invocation}

/-- The interceptors before a controller's store are harmless, and its invocations give up. -/
structure Able (r : Running β κ) : Prop where
  harmless : r.world.Harmless
  givesUp : ∀ i ∈ r.controller.waiting, i.rest.GivesUp

/-- A controller gets from one state to another; and as long as no announcement is lost on the way, a
loop gets there by moves. -/
structure Gets (r r' : Running β κ) : Prop where
  able : r'.Able
  seen_le : r.seen ≤ r'.seen
  announced_le : r.world.announced.length ≤ r'.world.announced.length
  leads : r'.world.announced.length ≤ r.seen + channelCapacity → ∀ l : Loop κ,
    l.Shows r.world r.seen r.controller → l.LeadsTo r'.world r'.seen r'.controller

theorem Gets.refl (able : r.Able) : r.Gets r :=
  ⟨able, Nat.le_refl _, Nat.le_refl _, fun _ _ shows => shows.leadsTo⟩

theorem Gets.trans (h : r.Gets r') (h' : r'.Gets r'') : r.Gets r'' where
  able := h'.able
  seen_le := Nat.le_trans h.seen_le h'.seen_le
  announced_le := Nat.le_trans h.announced_le h'.announced_le
  leads kept l shows :=
    (h.leads (Nat.le_trans h'.announced_le kept) l shows).trans fun l shows =>
      h'.leads (Nat.le_trans kept (Nat.add_le_add_right h.seen_le _)) l shows

/-! #### A turn of the workers -/

theorem gets_work (able : r.Able) (worked : r.work? = some r') : r.Gets r' := by
  obtain ⟨⟨i, c⟩, begins, eq⟩ := Option.bind_eq_some_iff.mp worked
  obtain ⟨left, grown⟩ := able.harmless.pursue i.rest
  have leads := fun (l : Loop κ) (shows : l.Shows r.world r.seen r.controller) =>
    shows.worked able.harmless begins
  obtain ⟨waiting, givesUp⟩ : c.waiting = r.controller.waiting ∧ i.rest.GivesUp := by
    obtain ⟨-, key, queue, -, rfl, rfl⟩ := Controller.begin?_eq_some_iff.mp begins
    exact ⟨rfl, Reconciler.givesUp_reconcile ..⟩
  have going := givesUp.pursue World.perform r.world
  obtain ⟨⟨rest, w⟩, pursued⟩ : ∃ p, i.rest.pursue World.perform r.world = p := ⟨_, rfl⟩
  simp only [pursued] at eq left grown leads going
  cases rest with
  | done result =>
    obtain rfl := Option.some.inj eq
    refine ⟨⟨left, ?_⟩, Nat.le_refl _, grown, fun _ l shows =>
      (leads l shows).trans fun l shows => shows.settled rfl⟩
    show ∀ j ∈ (c.settle i.key result).waiting, j.rest.GivesUp
    rw [Controller.waiting_settle, waiting]
    exact able.givesUp
  | call next resume =>
    obtain rfl := Option.some.inj eq
    refine ⟨⟨left, ?_⟩, Nat.le_refl _, grown, fun _ l shows =>
      (leads l shows).trans fun l shows => Loop.Shows.leadsTo { shows with
        waiting := shows.waiting.trans (List.perm_append_singleton _ c.waiting).symm }⟩
    show ∀ j ∈ c.waiting ++ [{ i with rest := .call next resume }], j.rest.GivesUp
    rw [waiting, List.forall_mem_append]
    exact ⟨able.givesUp, List.forall_mem_singleton.mpr going⟩

theorem gets_workOn (able : r.Able) (n : Nat) : r.Gets (workOn n r) := by
  induction n generalizing r with
  | zero => exact .refl able
  | succ n ih =>
    rw [workOn]
    split
    · rename_i next worked
      have first := gets_work able worked
      exact first.trans (ih first.able)
    · exact .refl able

/-! #### A turn of the dispatcher -/

theorem gets_resync (able : r.Able) : r.Gets r.resync := by
  obtain ⟨left, grown⟩ := able.harmless.pursue Pass.agentKeys.run
  have same : r.resync.world = (Pass.agentKeys.run.pursue World.perform r.world).2 ∧
      r.resync.seen = r.seen ∧ r.resync.controller.waiting = r.controller.waiting := by
    rw [resync]
    split <;> rename_i pursued <;> rw [pursued] <;> exact ⟨rfl, rfl, rfl⟩
  obtain ⟨world, seen, waiting⟩ := same
  exact {
    able := ⟨world ▸ left, waiting ▸ able.givesUp⟩
    seen_le := Nat.le_of_eq seen.symm
    announced_le := world ▸ grown
    leads := fun _ l shows => shows.resynced able.harmless }

/-- Where announcements were lost, so many were made that the condition for the loop fails. -/
theorem gets_dispatch (able : r.Able) (dispatched : r.dispatch? = some r') : r.Gets r' := by
  by_cases kept : r.world.announced.length ≤ r.seen + channelCapacity
  · have leads := fun (l : Loop κ) (shows : l.Shows r.world r.seen r.controller) =>
      shows.dispatched kept dispatched
    simp only [dispatch?] at dispatched
    split at dispatched
    · rw [if_neg (Nat.not_lt.mpr kept)] at dispatched
      obtain rfl := Option.some.inj dispatched
      exact ⟨⟨able.harmless, able.givesUp⟩, Nat.le_succ _, Nat.le_refl _, fun _ => leads⟩
    · cases dispatched
  · simp only [dispatch?] at dispatched
    split at dispatched
    · rw [if_pos (Nat.lt_of_not_le kept)] at dispatched
      obtain rfl := Option.some.inj dispatched
      have listed := gets_resync
        (r := { r with seen := r.world.announced.length - channelCapacity })
        ⟨able.harmless, able.givesUp⟩
      have later : r.seen ≤ r.world.announced.length - channelCapacity :=
        Nat.le_sub_of_add_le (Nat.le_of_not_le kept)
      exact ⟨listed.able, Nat.le_trans later listed.seen_le, listed.announced_le,
        fun kept' => absurd (Nat.le_trans listed.announced_le kept') kept⟩
    · cases dispatched

theorem gets_dispatchUpTo (able : r.Able) (n : Nat) : r.Gets (dispatchUpTo n r) := by
  induction n generalizing r with
  | zero => exact .refl able
  | succ n ih =>
    rw [dispatchUpTo]
    split
    · rename_i next dispatched
      have first := gets_dispatch able dispatched
      exact first.trans (ih first.able)
    · exact .refl able

/-- Whatever is done at a moment, the loop can do by moves. -/
theorem gets_quiesce (able : r.Able) (n : Nat) : r.Gets (quiesce n r) := by
  induction n generalizing r with
  | zero => exact .refl able
  | succ n ih =>
    have dispatched := gets_dispatchUpTo able batchSize
    have worked := dispatched.trans (gets_workOn dispatched.able patience)
    simp only [quiesce]
    split
    · exact worked.trans (ih worked.able)
    · exact worked

/-! #### Time -/

/-- The controller beside invocations that have yet to be ended. -/
def beside (r : Running β κ) (expired : List Invocation) : Running β κ :=
  { r with controller :=
    { r.controller with waiting := expired ++ r.controller.waiting } }

theorem gets_expire (able : (r.beside [i]).Able) : (r.beside [i]).Gets (r.expire i) := by
  obtain ⟨givesUp, others⟩ := List.forall_mem_cons.mp able.givesUp
  have leads := fun (l : Loop κ)
    (shows : l.Shows r.world r.seen { r.controller with waiting := i :: r.controller.waiting }) =>
      shows.expired givesUp
  obtain ⟨result, ended⟩ := givesUp.giveUp_eq
  have same : r.expire i = { r with controller := r.controller.settle i.key result } := by
    rw [expire, ended]
    rfl
  rw [same] at leads ⊢
  refine ⟨⟨able.harmless, ?_⟩, Nat.le_refl _, Nat.le_refl _, fun _ => leads⟩
  show ∀ j ∈ (r.controller.settle i.key result).waiting, j.rest.GivesUp
  rw [Controller.waiting_settle]
  exact others

/-- Ending an invocation has nothing to do with the others that have yet to be ended. -/
theorem expire_beside (givesUp : i.rest.GivesUp) (others : List Invocation) :
    (r.beside others).expire i = (r.expire i).beside others := by
  obtain ⟨result, ended⟩ := givesUp.giveUp_eq
  rw [expire, expire, ended]
  cases result <;> rfl

theorem gets_expireAll {expired : List Invocation} (able : (r.beside expired).Able) :
    (r.beside expired).Gets (expired.foldl expire r) := by
  induction expired generalizing r with
  | nil => exact .refl able
  | cons i rest ih =>
    have first := gets_expire (r := r.beside rest) able
    rw [expire_beside (able.givesUp i List.mem_cons_self)] at first
    exact first.trans (ih first.able)

theorem gets_sleepUntil (able : r.Able) (time : Nat) : r.Gets { r with controller :=
    { r.controller with timed := r.controller.timed.sleepUntil time } } :=
  ⟨⟨able.harmless, able.givesUp⟩, Nat.le_refl _, Nat.le_refl _, fun _ _ shows => shows.slept time⟩

theorem gets_rescheduled (able : r.Able) (nextResync : Nat) : r.Gets { r with nextResync } :=
  ⟨⟨able.harmless, able.givesUp⟩, Nat.le_refl _, Nat.le_refl _, fun _ _ shows => shows.leadsTo⟩

/-- In which order invocations wait does not matter. -/
theorem gets_reordered {waiting : List Invocation} (able : r.Able)
    (perm : r.controller.waiting.Perm waiting) :
    r.Gets { r with controller := { r.controller with waiting } } :=
  ⟨⟨able.harmless, fun i mem => able.givesUp i (perm.mem_iff.mpr mem)⟩, Nat.le_refl _,
    Nat.le_refl _, fun _ _ shows => Loop.Shows.leadsTo { shows with
      waiting := shows.waiting.trans perm }⟩

theorem gets_arrive (able : r.Able) (time : Nat) : r.Gets (r.arrive time) := by
  obtain ⟨⟨expired, left⟩, parts⟩ :
      ∃ p, r.controller.waiting.partition (·.deadline ≤ time) = p := ⟨_, rfl⟩
  have perm : r.controller.waiting.Perm (expired ++ left) := by
    rw [List.partition_eq_filter_filter] at parts
    obtain ⟨rfl, rfl⟩ := Prod.mk.inj parts
    exact (List.filter_append_perm _ _).symm
  have slept := gets_sleepUntil able time
  have apart := slept.trans (gets_reordered slept.able perm)
  have ended := apart.trans (gets_expireAll (r := { r with controller :=
    { r.controller with timed := r.controller.timed.sleepUntil time, waiting := left } })
      apart.able)
  simp only [arrive, parts]
  split
  · have listed := fun nextResync =>
      have rescheduled := ended.trans (gets_rescheduled ended.able nextResync)
      rescheduled.trans (gets_resync rescheduled.able)
    exact (listed _).trans (gets_quiesce (listed _).able patience)
  · exact ended.trans (gets_quiesce ended.able patience)

theorem gets_passUntil (able : r.Able) (time n : Nat) : r.Gets (passUntil time n r) := by
  induction n generalizing r with
  | zero => exact .refl able
  | succ n ih =>
    rw [passUntil]
    split
    · split
      · rename_i moment _ _
        have arrived := gets_arrive able moment
        exact arrived.trans (ih arrived.able)
      · exact .refl able
    · exact .refl able

/-- Whatever a controller does until a time, a loop can do by moves. -/
theorem gets_advanceTo (able : r.Able) (time : Nat) : r.Gets (r.advanceTo time) := by
  have quiet := gets_quiesce able patience
  have passed := quiet.trans (gets_passUntil quiet.able time patience)
  exact passed.trans (gets_sleepUntil passed.able time)

/-- What becomes of a controller while time passes and others act on agents in between, and no
announcement is lost. -/
inductive Continues (r : Running β κ) : Running β κ → Prop where
  | start : Continues r r
  | advanced {r' : Running β κ} (before : Continues r r') (time : Nat)
      (kept : (r'.advanceTo time).world.announced.length ≤ r'.seen + channelCapacity) :
      Continues r (r'.advanceTo time)
  | acted {r' : Running β κ} {v : World β κ} (before : Continues r r')
      (acted : r'.world.ActedOn v) : Continues r { r' with world := v }

end Running

/-- A controller that was started on a store goes on as a loop does which begins in order. -/
theorem Loop.moves_of_continues {w w' : World β κ} {r r' : Running β κ}
    {settings : ControllerSettings} {broker : BrokerSettings} (harmless : w.Harmless)
    (started : Running.start w (.idle settings broker) = (.ok r, w'))
    (continues : r.Continues r') :
    ∃ l l' : Loop κ, Reached settings broker l ∧ l.Moves l' ∧
      l'.Shows r'.world r'.seen r'.controller ∧ r'.Able := by
  obtain ⟨⟨l, reached, shows⟩, left, nobody⟩ := reached_of_start harmless started
  refine ⟨l, ?_⟩
  induction continues with
  | start =>
    exact ⟨l, reached, .refl, shows, left, fun i mem => absurd mem (nobody ▸ List.not_mem_nil)⟩
  | @advanced r' _ time kept ih =>
    obtain ⟨l', -, moves, shows', able⟩ := ih
    have gets := Running.gets_advanceTo able time
    obtain ⟨u, moves', shows''⟩ := gets.leads kept l' shows'
    exact ⟨u, reached, moves.trans moves', shows'', gets.able⟩
  | @acted r' v _ acted ih =>
    obtain ⟨l', -, moves, shows', able⟩ := ih
    obtain ⟨u, moves', shows''⟩ := shows'.acted acted
    exact ⟨u, reached, moves.trans moves', shows'', acted.harmless, able.givesUp⟩

end ControlPlane
