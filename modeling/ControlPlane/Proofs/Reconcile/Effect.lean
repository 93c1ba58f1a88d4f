import ControlPlane.Proofs.Reconcile.Alone
import ControlPlane.Proofs.Reconcile.OwnCalls
import ControlPlane.Proofs.Store.OwnKeys

/-!
What an invocation establishes that nobody interferes with. Afterwards the function is the one that
the agent and its documents call for, the agent has the function's status, and every other record is
as it was; the outcome tells exactly what was done, and every change is announced for the agent
(`Reconciler.Established`, `Reconciler.established_of_synced`). This is said of the agent that is
found at the key of the invocation. It is the agent with that key, and there is nothing to do without
one, precisely where the key is told apart from others or nothing is found
(`Reconciler.reconcile_establishes`).
-/

namespace ControlPlane

variable {κ : Type} [Address κ]

/-- Two functions with the same specification, labels and owners. -/
structure FunctionRecord.Agrees (f g : FunctionRecord) : Prop where
  spec : f.spec = g.spec
  labels : f.metadata.labels = g.metadata.labels
  owners : f.metadata.ownerReferences = g.metadata.ownerReferences

theorem FunctionRecord.Agrees.refl (f : FunctionRecord) : f.Agrees f := ⟨rfl, rfl, rfl⟩

namespace Reconciler

variable {broker : BrokerSettings} {key : RecordKey} {agent : AgentRecord} {config : Documents}
  {s t u : Store κ} {f : FunctionRecord} {action : FunctionAction} {told : Bool} {w : Written κ}

/-! ### The function -/

/-- The function that an agent calls for is at a key, and the action tells what was done for it. -/
structure FunctionMade (agent : AgentRecord) (config : Documents) (key : RecordKey) (s t : Store κ)
    (action : FunctionAction) (f : FunctionRecord) : Prop where
  read : t.fetch FunctionSpec key = .ok f
  spec : f.spec = (FunctionRecord.derived agent config).spec
  labels : f.metadata.labels = .ofList [(Metadata.agentLabel, agent.metadata.name)]
  controller : agent.metadata.controllerReference .agent ∈ f.metadata.ownerReferences
  statusKept : ∀ r, s.find? .function key = some r →
    (t.find? .function key).map (·.status) = some r.status
  statusNew : s.find? .function key = none → f.status = {}
  created : action = .created ↔ s.find? .function key = none
  updated : action = .updated ↔ ∃ stored, s.fetch FunctionSpec key = .ok stored ∧ ¬ f.Agrees stored

/-- A store that finds the same function there will do as well. -/
theorem FunctionMade.of_same (made : FunctionMade agent config key s t action f)
    (same : u.find? .function key = t.find? .function key) :
    FunctionMade agent config key s u action f :=
  { made with
    read := (Store.fetch_congr same).trans made.read
    statusKept := fun r found => same ▸ made.statusKept r found }

/-- What one write for the function changes, and what is announced of it. -/
structure FunctionStep (agent : AgentRecord) (config : Documents) (key : RecordKey) (s : Store κ)
    (action : FunctionAction) (w : Written κ) (f : FunctionRecord) : Prop where
  made : FunctionMade agent config key s w.store action f
  others : ∀ kind' key', Address.of (κ := κ) kind' key' ≠ Address.of .function key →
    w.store.find? kind' key' = s.find? kind' key'
  count : w.announced.length = if action = .unchanged then 0 else 1
  concerned : ∀ a ∈ w.announced, a.agentKey? = some agent.key

theorem step_of_kept (plain : ∀ e ∈ config.entries, e.2.isPlain = true)
    (kept : verdict agent (intended agent config) (s.fetch FunctionSpec key) = .kept) :
    ∃ f, FunctionStep agent config key s .unchanged ⟨s, []⟩ f := by
  obtain ⟨stored, m, read, taken, references, spec, labels⟩ := (verdict_kept_iff plain).mp kept
  obtain ⟨current, found, -⟩ := Store.fetch_eq_ok_iff.mp read
  have present : s.find? .function key ≠ none :=
    fun absent => Option.some_ne_none current (found.symm.trans absent)
  refine ⟨stored, ⟨read, spec, labels, ?_, ?_, ?_, ?_, ?_⟩, fun _ _ _ => rfl, rfl, ?_⟩
  · rw [← references]
    exact (Metadata.setController_references taken).1
  · intro r there
    rw [there]
    rfl
  · exact fun absent => absurd absent present
  · exact ⟨by rintro ⟨⟩, fun absent => absurd absent present⟩
  · refine ⟨by rintro ⟨⟩, ?_⟩
    rintro ⟨g, read', differs⟩
    obtain rfl := Except.ok.inj (read.symm.trans read')
    exact absurd (.refl stored) differs
  · intro a mem
    cases mem

/-- The function at the key of a stored agent has the agent's key. -/
theorem key_of_function (home : s.fetch AgentSpec key = .ok agent) {r : Record}
    (found : s.find? .function key = some r) : r.key = agent.key := by
  obtain ⟨there, accepted⟩ := Store.filed_fetch home
  obtain ⟨there', accepted'⟩ := Store.filed_find? found
  exact Address.of_inj accepted' accepted (there'.symm.trans (Address.of_congr there))

theorem step_of_revised (home : s.fetch AgentSpec key = .ok agent)
    (plain : ∀ e ∈ config.entries, e.2.isPlain = true) {g : FunctionRecord}
    (revised : verdict agent (intended agent config) (s.fetch FunctionSpec key) = .revised g)
    (run : (Verdict.carryOut (intended agent config) (.revised g)).runOn s = (.ok action, w)) :
    ∃ f, FunctionStep agent config key s action w f := by
  have notKept : verdict agent (intended agent config) (s.fetch FunctionSpec key) ≠ .kept := by
    rw [revised]
    rintro ⟨⟩
  obtain ⟨t, stored, m, current, written⟩ := written_of_revised revised
  obtain ⟨acted, rfl⟩ := Prod.mk.inj (written.run.symm.trans run)
  obtain rfl := Except.ok.inj acted
  obtain rfl := written.made
  have found := written.found
  have present : s.find? .function key ≠ none :=
    fun absent => Option.some_ne_none current (found.symm.trans absent)
  refine ⟨_, ⟨written.reread, rfl, rfl, ?_, ?_, ?_, ?_, ?_⟩, ?_, rfl, ?_⟩
  · exact (Metadata.setController_references written.taken).1
  · intro r there
    obtain rfl := Option.some.inj (found.symm.trans there)
    exact congrArg (Option.map _) (written.puts.found_at written.there)
  · exact fun absent => absurd absent present
  · exact ⟨by rintro ⟨⟩, fun absent => absurd absent present⟩
  · refine ⟨fun _ => ⟨stored, written.read, fun agrees => notKept ?_⟩, fun _ => rfl⟩
    exact (verdict_kept_iff plain).mpr ⟨stored, m, written.read, written.taken, agrees.owners,
      agrees.spec.symm, agrees.labels.symm⟩
  · intro kind' key' ne
    exact written.puts.others kind' key' (written.there ▸ ne)
  · intro a mem
    obtain rfl := List.mem_singleton.mp mem
    have owned : current.key = agent.key := key_of_function home found
    exact Announcement.agentKey?_of_label owned (label_intended agent config)

theorem step_of_missing (home : s.fetch AgentSpec key = .ok agent)
    (missing : verdict agent (intended agent config) (s.fetch FunctionSpec key) = .missing)
    (run : (Verdict.carryOut (intended agent config) .missing).runOn s = (.ok action, w)) :
    ∃ f, FunctionStep agent config key s action w f := by
  obtain ⟨t, uid, written⟩ := written_of_missing home missing
  obtain ⟨acted, rfl⟩ := Prod.mk.inj (written.run.symm.trans run)
  obtain rfl := Except.ok.inj acted
  have absent := written.absent
  refine ⟨_, ⟨written.reread, rfl, rfl, ?_, ?_, ?_, ?_, ?_⟩, ?_, rfl, ?_⟩
  · exact List.mem_singleton_self _
  · intro r there
    cases absent.symm.trans there
  · exact fun _ => rfl
  · exact ⟨fun _ => absent, fun _ => rfl⟩
  · refine ⟨by rintro ⟨⟩, ?_⟩
    rintro ⟨stored, read, -⟩
    rw [Store.fetch_of_absent absent] at read
    cases read
  · intro kind' key' ne
    exact written.puts.others kind' key' (written.there ▸ ne)
  · intro a mem
    obtain rfl := List.mem_singleton.mp mem
    exact Announcement.agentKey?_of_label rfl (label_intended agent config)

/-- Where the function was not refused, it is as the agent calls for. -/
theorem syncFunction_step (home : s.fetch AgentSpec key = .ok agent)
    (plain : ∀ e ∈ config.entries, e.2.isPlain = true)
    (run : (syncFunction agent (intended agent config) key).run.runOn s = (.ok action, w)) :
    ∃ f, FunctionStep agent config key s action w f := by
  rw [runOn_syncFunction] at run
  cases judged : verdict agent (intended agent config) (s.fetch FunctionSpec key) with
  | refused e =>
    rw [judged] at run
    cases run
  | kept =>
    rw [judged] at run
    cases run
    exact step_of_kept plain judged
  | revised g => exact step_of_revised home plain judged (judged ▸ run)
  | missing => exact step_of_missing home judged (judged ▸ run)

/-! ### The agent -/

/-- The agent at a key has the status of a function, and only its version may have changed
besides. -/
structure AgentMade (key : RecordKey) (s t : Store κ) (f : FunctionRecord) (told : Bool) : Prop where
  status : ∃ agent', t.fetch AgentSpec key = .ok agent' ∧
    agent'.status = AgentStatus.ofFunction f.status
  kept : ∀ r, s.find? .agent key = some r → ∃ r', t.find? .agent key = some r' ∧
    r'.spec = r.spec ∧
    r'.metadata = { r.metadata with resourceVersion := r'.metadata.resourceVersion }
  told : ∀ agent, s.fetch AgentSpec key = .ok agent →
    (told = true ↔ agent.status ≠ AgentStatus.ofFunction f.status)

/-- What one write for the agent changes, and what is announced of it. -/
structure AgentStep (agent : AgentRecord) (key : RecordKey) (s : Store κ) (told : Bool)
    (w : Written κ) (f : FunctionRecord) : Prop where
  made : AgentMade key s w.store f told
  others : ∀ kind' key', Address.of (κ := κ) kind' key' ≠ Address.of .agent key →
    w.store.find? kind' key' = s.find? kind' key'
  count : w.announced.length = if told then 1 else 0
  concerned : ∀ a ∈ w.announced, a.agentKey? = some agent.key

theorem syncStatus_step (home : s.fetch AgentSpec key = .ok agent)
    (read : s.fetch FunctionSpec key = .ok f)
    (run : (syncStatus agent key).run.runOn s = (.ok told, w)) : AgentStep agent key s told w f := by
  rw [runOn_syncStatus, read] at run
  by_cases same : agent.status = AgentStatus.ofFunction f.status
  · rw [mirror, if_pos same] at run
    cases run
    refine ⟨⟨⟨agent, home, same⟩, fun r found => ⟨r, found, rfl, rfl⟩, fun a read' => ?_⟩,
      fun _ _ _ => rfl, rfl, fun a mem => ?_⟩
    · obtain rfl := Except.ok.inj (home.symm.trans read')
      exact ⟨by rintro ⟨⟩, fun differs => absurd same differs⟩
    · cases mem
  · obtain ⟨t, current, written⟩ := written_of_differs home same
    obtain ⟨acted, rfl⟩ := Prod.mk.inj (written.run.symm.trans run)
    obtain rfl := Except.ok.inj acted
    refine ⟨⟨⟨_, written.reread, rfl⟩, fun r there => ?_, fun a read' => ?_⟩,
      fun kind' key' ne => ?_, rfl, fun a mem => ?_⟩
    · obtain rfl := Option.some.inj (written.found.symm.trans there)
      exact ⟨_, written.puts.found_at written.there, rfl, rfl⟩
    · obtain rfl := Except.ok.inj (home.symm.trans read')
      exact ⟨fun _ => same, fun _ => rfl⟩
    · exact written.puts.others kind' key' (written.there ▸ ne)
    · obtain rfl := List.mem_singleton.mp mem
      have own : current.key = agent.key := Client.key_of_typed written.typed
      exact congrArg some own

/-! ### The whole invocation -/

/-- What an invocation establishes that tells an action for the function of an agent, and whether it
wrote the agent's status. -/
structure Established (broker : BrokerSettings) (key : RecordKey) (s : Store κ)
    (action : FunctionAction) (told : Bool) (w : Written κ) (agent : AgentRecord)
    (config : Documents) (f : FunctionRecord) : Prop where
  home : s.fetch AgentSpec key = .ok agent
  composed : (Documents.compose broker agent).endOn s = .ok config
  function : FunctionMade agent config key s w.store action f
  mirrored : AgentMade key s w.store f told
  others : ∀ kind' key', Address.of (κ := κ) kind' key' ≠ Address.of .function key →
    Address.of (κ := κ) kind' key' ≠ Address.of .agent key →
    w.store.find? kind' key' = s.find? kind' key'
  writes : (Reconciled.synced action told).writes = w.announced.length
  concerned : ∀ a ∈ w.announced, a.agentKey? = some agent.key

/-- The two writes in a row. -/
theorem established_of_steps {v : Written κ} (home : s.fetch AgentSpec key = .ok agent)
    (composed : (Documents.compose broker agent).endOn s = .ok config)
    (first : FunctionStep agent config key s action w f)
    (second : AgentStep agent key w.store told v f) :
    Established broker key s action told (v.after w.announced) agent config f where
  home := home
  composed := composed
  function := first.made.of_same
    (second.others .function key (Address.function_ne_agent key key))
  mirrored := by
    have same := first.others .agent key (Address.function_ne_agent key key).symm
    have made := second.made
    exact ⟨made.status, fun r found => made.kept r (same.trans found),
      fun a read => made.told a ((Store.fetch_congr same).trans read)⟩
  others kind' key' ne ne' := (second.others kind' key' ne').trans (first.others kind' key' ne)
  writes := by
    rw [Written.after_announced, List.length_append, first.count, second.count]
    rfl
  concerned a mem := by
    rw [Written.after_announced, List.mem_append] at mem
    exact mem.elim (first.concerned a) (second.concerned a)

/-- The rest of an invocation that succeeds made its two steps. -/
theorem steps_of_conclude (run : (conclude agent key config).runOn s = (.ok (.synced action told), w)) :
    ∃ v v', (syncFunction agent (intended agent config) key).run.runOn s = (.ok action, v) ∧
      (syncStatus agent key).run.runOn v.store = (.ok told, v') ∧ v'.after v.announced = w := by
  rw [conclude, Routine.runOn_bind] at run
  rcases first : (syncFunction agent (intended agent config) key).run.runOn s with ⟨_ | action', v⟩
  · rw [first] at run
    cases run
  · rw [first] at run
    simp only [Routine.runOn_bind] at run
    rcases second : (syncStatus agent key).run.runOn v.store with ⟨_ | told', v'⟩
    · rw [second] at run
      cases run
    · rw [second] at run
      cases run
      exact ⟨v, v', rfl, second, by simp [Written.after, Routine.runOn_done]⟩

/-- An invocation that succeeds establishes what it tells. -/
theorem established_of_synced
    (run : (reconcile broker key).run.runOn s = (.ok (.synced action told), w)) :
    ∃ agent config f, Established broker key s action told w agent config f := by
  cases home : s.fetch AgentSpec key with
  | error e =>
    rw [(runOn_reconcile_of_error broker home).2] at run
    split at run <;> cases run
  | ok agent =>
    rw [(runOn_reconcile_of_ok broker home).2, runOn_sync] at run
    cases valid : agent.spec.validate with
    | error e =>
      rw [valid] at run
      cases run
    | ok u =>
      cases composed : (Documents.compose broker agent).endOn s with
      | error e =>
        rw [valid, composed] at run
        cases run
      | ok config =>
        rw [valid, composed] at run
        obtain ⟨v, v', first, second, rfl⟩ := steps_of_conclude run
        obtain ⟨f, step⟩ := syncFunction_step home (Documents.plain_of_compose composed) first
        have home' : v.store.fetch AgentSpec key = .ok agent := by
          rw [← home]
          exact Store.fetch_congr
            (step.others .agent key (Address.function_ne_agent key key).symm)
        exact ⟨agent, config, f, established_of_steps home composed step
          (syncStatus_step home' step.made.read second)⟩

/-! ### The agent with the key -/

/-- An invocation finds nothing to do where no agent has its key, and otherwise what it establishes
is for the agent with its key. -/
structure KeepsToAgent (broker : BrokerSettings) (key : RecordKey) (s : Store κ) : Prop where
  absent : (∀ r ∈ s.select .agent none, r.key ≠ key) →
    (reconcile broker key).run.runOn s = (.ok .agentNotFound, ⟨s, []⟩)
  present : ∀ action told w, (reconcile broker key).run.runOn s = (.ok (.synced action told), w) →
    ∃ agent config f, agent.key = key ∧ Established broker key s action told w agent config f

/-- Where no agent is found, there is nothing to do. -/
theorem runOn_reconcile_of_absent (broker : BrokerSettings) (absent : s.find? .agent key = none) :
    (reconcile broker key).run.runOn s = (.ok .agentNotFound, ⟨s, []⟩) := by
  obtain ⟨e, read, isNotFound⟩ :=
    (Store.fetch_notFound_iff (σ := AgentSpec)).mpr absent
  rw [(runOn_reconcile_of_error broker read).2, if_pos isNotFound]

/-- Where an agent is found, an invocation does not tell that there is none. -/
theorem agentNotFound_iff (broker : BrokerSettings) :
    ((reconcile broker key).run.runOn s).1 = .ok .agentNotFound ↔ s.find? .agent key = none := by
  constructor
  · intro told
    cases read : s.fetch AgentSpec key with
    | error e =>
      rw [(runOn_reconcile_of_error broker read).2] at told
      by_cases isNotFound : e.isNotFound
      · exact Store.fetch_notFound_iff.mp ⟨e, read, isNotFound⟩
      · rw [if_neg isNotFound] at told
        cases told
    | ok agent =>
      rw [(runOn_reconcile_of_ok broker read).2] at told
      rcases runOn_sync_cases broker read with ⟨e, run⟩ | ⟨_, _, _, _, _, _, -, -, run, -⟩
      · rw [run] at told
        cases told
      · rw [run] at told
        cases told
  · intro absent
    rw [runOn_reconcile_of_absent broker absent]

/-- An invocation that finds no agent changes nothing, and one that succeeds otherwise establishes
what it tells for the agent that it found. That is the agent with its key, and no agent with its key
means that there is nothing to do, precisely where the key is not refused or no agent is found. -/
theorem reconcile_establishes (broker : BrokerSettings) (key : RecordKey) (s : Store κ) :
    (s.find? .agent key = none →
        (reconcile broker key).run.runOn s = (.ok .agentNotFound, ⟨s, []⟩)) ∧
      (∀ action told w, (reconcile broker key).run.runOn s = (.ok (.synced action told), w) →
        ∃ agent config f, Established broker key s action told w agent config f) ∧
      (KeepsToAgent broker key s ↔
        Address.refusal? κ key = none ∨ s.find? .agent key = none) := by
  refine ⟨runOn_reconcile_of_absent broker, fun _ _ _ => established_of_synced, ?_, ?_⟩
  · intro keeps
    by_cases none : ∀ r ∈ s.select .agent none, r.key ≠ key
    · right
      exact (agentNotFound_iff broker).mp (congrArg Prod.fst (keeps.absent none))
    · left
      push Not at none
      obtain ⟨r, mem, rfl⟩ := none
      exact (Store.filed_find? (Store.mem_select_iff.mp mem)).2
  · intro apart
    constructor
    · intro none
      apply runOn_reconcile_of_absent broker
      rcases apart with accepted | absent
      · rw [← Option.not_isSome_iff_eq_none, Option.isSome_iff_exists]
        rintro ⟨r, found⟩
        exact none r (Store.mem_select_of_find? found) (Store.key_of_find? accepted found)
      · exact absent
    · intro action told w run
      rcases apart with accepted | absent
      · obtain ⟨agent, config, f, established⟩ := established_of_synced run
        exact ⟨agent, config, f, Store.key_of_fetch accepted established.home, established⟩
      · rw [runOn_reconcile_of_absent broker absent] at run
        cases run

/-- A function that runs is taken over, and its status is mirrored. -/
theorem runningFunction_established :
    let run := (reconcile default ⟨"d", "a"⟩).run.runOn runningFunction
    run.1 = .ok (.synced .updated true) ∧
      ∃ agent config f, Established default ⟨"d", "a"⟩ runningFunction .updated true run.2 agent
        config f := by
  intro run
  have done : run.1 = .ok (.synced .updated true) := by decide +kernel
  exact ⟨done, (reconcile_establishes default ⟨"d", "a"⟩ runningFunction).2.1 _ _ _
    (Prod.ext done rfl)⟩

/-- An invocation for a key that no agent has makes a function for an agent that has another. -/
theorem zeroInName_made :
    let key : RecordKey := ⟨"a\x00b", "c"⟩
    let run := (reconcile default key).run.runOn Store.zeroInName
    (∀ r ∈ Store.zeroInName.select .agent none, r.key ≠ key) ∧
      run.1 = .ok (.synced .created false) ∧
      run.2.announced.map Announcement.agentKey? = [some ⟨"a", "b\x00c"⟩] ∧
      ¬ KeepsToAgent default key Store.zeroInName := by
  intro key run
  have other : ∀ r ∈ Store.zeroInName.select .agent none, r.key ≠ key := by decide +kernel
  have made : run.1 = .ok (.synced .created false) := by decide +kernel
  refine ⟨other, made, by decide +kernel, fun keeps => ?_⟩
  have absent : run.1 = .ok .agentNotFound := congrArg Prod.fst (keeps.absent other)
  rw [made] at absent
  cases absent

end Reconciler

end ControlPlane
