import ControlPlane.Proofs.Reconcile.Calls

/-!
An invocation run on a store with nobody else at work. It fails and leaves the store as it was, or
it succeeds and leaves a store in which function and agent agree (`Reconciler.runOn_sync_cases`,
`Reconciler.Settled`). It does nothing exactly where they agree already
(`Reconciler.runOn_sync_idle_iff`).
-/

namespace ControlPlane

variable {κ : Type} [Address κ]

/-! ### Agents that want the same -/

/-- Two records of an agent that differ at most in their status and versions. -/
structure AgentRecord.WantsSame (a b : AgentRecord) : Prop where
  spec : a.spec = b.spec
  name : a.metadata.name = b.metadata.name
  home : a.metadata.namespace = b.metadata.namespace
  uid : a.metadata.uid = b.metadata.uid

namespace AgentRecord.WantsSame

variable {a b : AgentRecord}

theorem refl (a : AgentRecord) : a.WantsSame a := ⟨rfl, rfl, rfl, rfl⟩

theorem trans {c : AgentRecord} (h : a.WantsSame b) (h' : b.WantsSame c) : a.WantsSame c :=
  ⟨h.spec.trans h'.spec, h.name.trans h'.name, h.home.trans h'.home, h.uid.trans h'.uid⟩

theorem key_eq (h : a.WantsSame b) : a.key = b.key := by
  simp only [RecordOf.key, Metadata.key, h.name, h.home]

theorem compose_eq (h : a.WantsSame b) (broker : BrokerSettings) :
    Documents.compose broker a = Documents.compose broker b :=
  Documents.compose_congr h.spec h.name h.home

theorem intended_eq (h : a.WantsSame b) (config : Documents) :
    Reconciler.intended a config = Reconciler.intended b config := by
  simp only [Reconciler.intended, FunctionRecord.derived, Metadata.controllerReference, h.spec,
    h.name, h.home, h.uid]

theorem setController_eq (h : a.WantsSame b) (owned : Metadata) :
    Metadata.setController .agent a.metadata owned =
      Metadata.setController .agent b.metadata owned :=
  Metadata.setController_congr h.name h.home h.uid owned

end AgentRecord.WantsSame

namespace Reconciler

variable {broker : BrokerSettings} {key : RecordKey} {agent : AgentRecord} {config : Documents}
  {s : Store κ}

/-- The metadata of the function before control of it is taken. -/
def before (agent : AgentRecord) (config : Documents) :
    Except StoreError FunctionRecord → Metadata
  | .ok stored => stored.metadata
  | .error _ => (FunctionRecord.derived agent config).metadata

/-! ### Runs call by call -/

theorem runOn_syncFunction (agent : AgentRecord) (i : FunctionRecord) (key : RecordKey)
    (s : Store κ) : (syncFunction agent i key).run.runOn s =
      ((verdict agent i (s.fetch FunctionSpec key)).carryOut i).runOn s := by
  rw [syncFunction_run, Routine.runOn_call]
  rfl

theorem runOn_syncStatus (agent : AgentRecord) (key : RecordKey) (s : Store κ) :
    (syncStatus agent key).run.runOn s = (mirror agent (s.fetch FunctionSpec key)).runOn s := by
  rw [syncStatus_run, Routine.runOn_call]
  rfl

theorem runOn_sync (broker : BrokerSettings) (key : RecordKey) (agent : AgentRecord)
    (s : Store κ) : (sync broker key agent).run.runOn s =
      match agent.spec.validate with
      | .error e => (.error e, ⟨s, []⟩)
      | .ok () =>
        match (Documents.compose broker agent).endOn s with
        | .error e => (.error e, ⟨s, []⟩)
        | .ok config => (conclude agent key config).runOn s := by
  rw [sync_run]
  cases agent.spec.validate with
  | error e => rfl
  | ok u =>
    simp only
    rw [Routine.runOn_bind, ((Documents.compose_readsOnly broker agent).readsOn s).runOn,
      Attempt.endOn]
    cases ((Documents.compose broker agent).run.runOn s).1 <;> rfl

/-- An invocation for an agent that cannot be read changes nothing. -/
theorem runOn_reconcile_of_error {e : StoreError} (broker : BrokerSettings)
    (read : s.fetch AgentSpec key = .error e) :
    (reconcile broker key).run.ReadsOn s ∧ (reconcile broker key).run.runOn s =
      (if e.isNotFound then .ok .agentNotFound else .error (.store e), ⟨s, []⟩) := by
  have fetched : ((s.answer (.get .agent key)).1 >>= Client.typed : Except StoreError AgentRecord) =
    .error e := read
  rw [reconcile_run]
  constructor
  · refine ⟨rfl, ?_⟩
    simp only [fetched]
    split <;> trivial
  · rw [Routine.runOn_call, s.answer_of_read rfl]
    simp only [fetched]
    split <;> rfl

/-- An invocation for a stored agent is the rest of it. -/
theorem runOn_reconcile_of_ok (broker : BrokerSettings) (home : s.fetch AgentSpec key = .ok agent) :
    ((reconcile broker key).run.ReadsOn s ↔ (sync broker key agent).run.ReadsOn s) ∧
      (reconcile broker key).run.runOn s = (sync broker key agent).run.runOn s := by
  have fetched : ((s.answer (.get .agent key)).1 >>= Client.typed : Except StoreError AgentRecord) =
    .ok agent := home
  rw [reconcile_run]
  constructor
  · simp [Routine.ReadsOn, Call.isWrite, fetched]
  · rw [Routine.runOn_call, s.answer_of_read rfl]
    simp only [fetched, Written.after_nil]

/-! ### The function in place -/

/-- A function with the intended specification and labels, under a control that the agent took of
what the function was before. -/
structure Derived (agent : AgentRecord) (config : Documents) (owned : Metadata)
    (f : FunctionRecord) : Prop where
  spec : f.spec = (intended agent config).spec
  labels : f.metadata.labels = (intended agent config).metadata.labels
  controlled : ∃ m, Metadata.setController .agent agent.metadata owned = .ok m ∧
    f.metadata.key = owned.key ∧ f.metadata.ownerReferences = m.ownerReferences

/-- The function at a key is the derived one, and nothing else differs from an earlier store. -/
structure Placed (agent : AgentRecord) (config : Documents) (key : RecordKey) (s t : Store κ)
    (f : FunctionRecord) : Prop where
  read : t.fetch FunctionSpec key = .ok f
  derived : Derived agent config (before agent config (s.fetch FunctionSpec key)) f
  others : ∀ kind' key', Address.of (κ := κ) kind' key' ≠ Address.of .function key →
    t.find? kind' key' = s.find? kind' key'

theorem told_of_typed {σ τ α : Type} [RecordShape σ τ] {r : Record} {t : RecordOf σ τ} (a : α)
    (read : Client.typed r = .ok t) : told (σ := σ) a (.ok r) = .ok a := by
  simp [told, read]

/-- A function that is kept is in place. -/
theorem placed_of_kept (plain : ∀ e ∈ config.entries, e.2.isPlain = true)
    (kept : verdict agent (intended agent config) (s.fetch FunctionSpec key) = .kept) :
    ∃ f, Placed agent config key s s f := by
  obtain ⟨stored, m, read, taken, references, spec, labels⟩ := (verdict_kept_iff plain).mp kept
  refine ⟨stored, read, ⟨spec, labels, m, ?_, ?_, references.symm⟩, fun _ _ _ => rfl⟩
  · rwa [read]
  · rw [read]
    rfl

/-- A revision of the stored function is written over the record that the function was read from. -/
structure RevisionWritten (agent : AgentRecord) (i : FunctionRecord) (key : RecordKey)
    (s t : Store κ) (g stored : FunctionRecord) (m : Metadata) (current : Record) : Prop where
  read : s.fetch FunctionSpec key = .ok stored
  taken : Metadata.setController .agent agent.metadata stored.metadata = .ok m
  made : g = revision stored m i
  found : s.find? .function key = some current
  typed : Client.typed current = .ok stored
  there : Address.of (κ := κ) .function key = Address.of .function (current.updated g.untyped).key
  run : (Verdict.carryOut i (.revised g)).runOn s =
    (.ok .updated, ⟨t, [⟨.modified, .function, current.updated g.untyped⟩]⟩)
  puts : s.Puts t .function (current.updated g.untyped)
  reread : t.fetch FunctionSpec key =
    .ok ⟨(current.updated g.untyped).metadata, g.spec, stored.status⟩

theorem written_of_revised {i g : FunctionRecord}
    (revised : verdict agent i (s.fetch FunctionSpec key) = .revised g) :
    ∃ t stored m current, RevisionWritten agent i key s t g stored m current := by
  obtain ⟨stored, m, read, taken, made⟩ := verdict_revised revised
  obtain ⟨current, found, typed⟩ := Store.fetch_eq_ok_iff.mp read
  have kept := Metadata.setController_eq taken
  have metadata := Client.metadata_of_typed typed
  have sameKey : g.untyped.key = stored.key := by
    subst made
    show m.key = stored.metadata.key
    rw [kept]
    rfl
  have version : g.untyped.metadata.resourceVersion = current.metadata.resourceVersion := by
    subst made
    show m.resourceVersion = _
    rw [kept, metadata]
  have foundThere : s.find? .function g.untyped.key = some current := by
    rw [sameKey, ← found]
    exact Store.find?_congr s (Store.filed_fetch read).1.symm
  obtain ⟨t, done, puts⟩ := Store.commit_replace_of_found Record.updated (fun _ _ => rfl)
    foundThere version
  have back := Client.typed_updated typed g
  have there : Address.of (κ := κ) .function key =
      Address.of .function (current.updated g.untyped).key := (Store.filed_find? found).1
  refine ⟨t, stored, m, current, read, taken, made, found, typed, there, ?_, puts, ?_⟩
  · have answered : s.answer (.update .function g.untyped) = _ := done
    rw [Verdict.carryOut, Routine.runOn_call, answered]
    simp only [told_of_typed _ back]
    rfl
  · rw [Store.fetch_of_find? (puts.found_at there), back]

/-- A function that is revised is in place afterwards. -/
theorem placed_of_revised {f : FunctionRecord}
    (revised : verdict agent (intended agent config) (s.fetch FunctionSpec key) = .revised f) :
    ∃ t a f', (Verdict.carryOut (intended agent config) (.revised f)).runOn s =
        (.ok .updated, ⟨t, [a]⟩) ∧ Placed agent config key s t f' := by
  obtain ⟨t, stored, m, current, written⟩ := written_of_revised revised
  obtain rfl := written.made
  refine ⟨t, _, _, written.run, written.reread, ⟨rfl, rfl, m, ?_, ?_, rfl⟩,
    fun kind' key' ne => written.puts.others kind' key' (written.there ▸ ne)⟩
  · rw [written.read]
    exact written.taken
  · rw [written.read]
    have own : current.key = stored.key := Client.key_of_typed written.typed
    exact own

/-- A function that was missing is created at the key of its agent. -/
structure CreationWritten (i : FunctionRecord) (key : RecordKey) (s t : Store κ) (uid : String) :
    Prop where
  absent : s.find? .function key = none
  there : Address.of (κ := κ) .function key = Address.of .function (i.untyped.admitted uid).key
  run : (Verdict.carryOut i .missing).runOn s =
    (.ok .created, ⟨t, [⟨.added, .function, i.untyped.admitted uid⟩]⟩)
  puts : s.Puts t .function (i.untyped.admitted uid)
  reread : t.fetch FunctionSpec key = .ok ⟨(i.untyped.admitted uid).metadata, i.spec, i.status⟩

theorem written_of_missing (home : s.fetch AgentSpec key = .ok agent)
    (missing : verdict agent (intended agent config) (s.fetch FunctionSpec key) = .missing) :
    ∃ t uid, CreationWritten (intended agent config) key s t uid := by
  obtain ⟨e, read, isNotFound⟩ := verdict_missing missing
  have address : Address.of (κ := κ) .function key = Address.of .function agent.key :=
    Address.of_congr (Store.filed_fetch home).1
  have absent : s.find? .function key = none := Store.fetch_notFound_iff.mp ⟨e, read, isNotFound⟩
  have absentThere : s.find? .function (intended agent config).untyped.key = none := by
    rw [← absent]
    exact Store.find?_congr s address.symm
  obtain ⟨uid, t, done, puts⟩ := Store.answer_create_of_absent
    (r := (intended agent config).untyped) (Store.filed_fetch home).2 absentThere
  have back := Client.typed_admitted (intended agent config) uid
  refine ⟨t, uid, absent, address, ?_, puts, ?_⟩
  · rw [Verdict.carryOut, Routine.runOn_call, done]
    simp only [told_of_typed _ back]
    rfl
  · rw [Store.fetch_of_find? (puts.found_at address), back]

/-- A function that was missing is in place afterwards. -/
theorem placed_of_missing (home : s.fetch AgentSpec key = .ok agent)
    (missing : verdict agent (intended agent config) (s.fetch FunctionSpec key) = .missing) :
    ∃ t a f, (Verdict.carryOut (intended agent config) .missing).runOn s =
        (.ok .created, ⟨t, [a]⟩) ∧ Placed agent config key s t f := by
  obtain ⟨t, uid, written⟩ := written_of_missing home missing
  have taken := Metadata.setController_of_unowned .agent agent.metadata
    (FunctionRecord.derived agent config).metadata rfl rfl
  have read := Store.fetch_of_absent (σ := FunctionSpec) written.absent
  refine ⟨t, _, _, written.run, written.reread,
    ⟨rfl, rfl, (intended agent config).metadata, ?_, ?_, rfl⟩,
    fun kind' key' ne => written.puts.others kind' key' (written.there ▸ ne)⟩
  · rw [read]
    exact taken
  · rw [read]
    rfl

/-- The function is refused and nothing changes, or it is in place afterwards. -/
theorem runOn_syncFunction_cases (home : s.fetch AgentSpec key = .ok agent)
    (plain : ∀ e ∈ config.entries, e.2.isPlain = true) :
    (∃ e, verdict agent (intended agent config) (s.fetch FunctionSpec key) = .refused e ∧
      (syncFunction agent (intended agent config) key).run.runOn s = (.error e, ⟨s, []⟩)) ∨
    (∃ f, verdict agent (intended agent config) (s.fetch FunctionSpec key) = .kept ∧
      (syncFunction agent (intended agent config) key).run.runOn s = (.ok .unchanged, ⟨s, []⟩) ∧
      Placed agent config key s s f) ∨
    ∃ action t a f, action ≠ .unchanged ∧
      (syncFunction agent (intended agent config) key).run.runOn s = (.ok action, ⟨t, [a]⟩) ∧
      Placed agent config key s t f := by
  rw [runOn_syncFunction]
  cases judged : verdict agent (intended agent config) (s.fetch FunctionSpec key) with
  | refused e => exact .inl ⟨e, rfl, rfl⟩
  | kept =>
    obtain ⟨f, placed⟩ := placed_of_kept plain judged
    exact .inr (.inl ⟨f, rfl, rfl, placed⟩)
  | revised f =>
    obtain ⟨t, a, f', done, placed⟩ := placed_of_revised judged
    exact .inr (.inr ⟨.updated, t, a, f', by decide, done, placed⟩)
  | missing =>
    obtain ⟨t, a, f, done, placed⟩ := placed_of_missing home judged
    exact .inr (.inr ⟨.created, t, a, f, by decide, done, placed⟩)

/-! ### The status mirrored -/

/-- The status of a function is written over the record that the agent was read from. -/
structure StatusWritten (agent : AgentRecord) (f : FunctionRecord) (key : RecordKey) (s t : Store κ)
    (current : Record) : Prop where
  found : s.find? .agent key = some current
  typed : Client.typed current = .ok agent
  there : Address.of (κ := κ) .agent key =
    Address.of .agent (current.statusUpdated (mirrored agent f).untyped).key
  run : (mirror agent (.ok f)).runOn s =
    (.ok true, ⟨t, [⟨.modified, .agent, current.statusUpdated (mirrored agent f).untyped⟩]⟩)
  puts : s.Puts t .agent (current.statusUpdated (mirrored agent f).untyped)
  reread : t.fetch AgentSpec key = .ok
    ⟨(current.statusUpdated (mirrored agent f).untyped).metadata, agent.spec,
      AgentStatus.ofFunction f.status⟩

theorem written_of_differs {f : FunctionRecord} (home : s.fetch AgentSpec key = .ok agent)
    (differs : agent.status ≠ AgentStatus.ofFunction f.status) :
    ∃ t current, StatusWritten agent f key s t current := by
  obtain ⟨current, found, typed⟩ := Store.fetch_eq_ok_iff.mp home
  have address := (Store.filed_fetch home).1
  have foundThere : s.find? .agent (mirrored agent f).untyped.key = some current := by
    rw [← found]
    exact Store.find?_congr s address.symm
  have version : (mirrored agent f).untyped.metadata.resourceVersion =
      current.metadata.resourceVersion := by
    rw [Client.metadata_of_typed typed]
    rfl
  obtain ⟨t, done, puts⟩ := Store.commit_replace_of_found Record.statusUpdated
    (fun _ _ => rfl) foundThere version
  have back := Client.typed_statusUpdated typed (mirrored agent f)
  have there : Address.of (κ := κ) .agent key =
      Address.of .agent (current.statusUpdated (mirrored agent f).untyped).key :=
    (Store.filed_find? found).1
  refine ⟨t, current, found, typed, there, ?_, puts, ?_⟩
  · have answered : s.answer (.updateStatus .agent (mirrored agent f).untyped) = _ := done
    rw [mirror, if_neg differs, Routine.runOn_call, answered]
    simp only [told_of_typed _ back]
    rfl
  · rw [Store.fetch_of_find? (puts.found_at there), back]
    rfl

/-- The status is mirrored already, or it is mirrored afterwards. -/
theorem runOn_syncStatus_cases {f : FunctionRecord} (home : s.fetch AgentSpec key = .ok agent)
    (read : s.fetch FunctionSpec key = .ok f) :
    (agent.status = AgentStatus.ofFunction f.status ∧
      (syncStatus agent key).run.runOn s = (.ok false, ⟨s, []⟩)) ∨
    ∃ t a, ∃ agent' : AgentRecord, agent.status ≠ AgentStatus.ofFunction f.status ∧
      (syncStatus agent key).run.runOn s = (.ok true, ⟨t, [a]⟩) ∧
      t.fetch AgentSpec key = .ok agent' ∧ agent'.WantsSame agent ∧
      agent'.status = AgentStatus.ofFunction f.status ∧
      ∀ kind' key', Address.of (κ := κ) kind' key' ≠ Address.of .agent key →
        t.find? kind' key' = s.find? kind' key' := by
  rw [runOn_syncStatus, read]
  by_cases same : agent.status = AgentStatus.ofFunction f.status
  · rw [mirror, if_pos same]
    exact .inl ⟨same, rfl⟩
  · obtain ⟨t, current, written⟩ := written_of_differs home same
    have metadata := Client.metadata_of_typed written.typed
    have name : current.metadata.name = agent.metadata.name := by rw [metadata]
    have home : current.metadata.namespace = agent.metadata.namespace := by rw [metadata]
    have uid : current.metadata.uid = agent.metadata.uid := by rw [metadata]
    exact .inr ⟨t, _, _, same, written.run, written.reread, ⟨rfl, name, home, uid⟩, rfl,
      fun kind' key' ne => written.puts.others kind' key' (written.there ▸ ne)⟩

/-! ### Function and agent in agreement -/

/-- The function at a key is the derived one, the agent has the function's status, and nothing else
differs from an earlier store. -/
structure Settled (agent : AgentRecord) (config : Documents) (key : RecordKey) (s t : Store κ)
    (f : FunctionRecord) (agent' : AgentRecord) : Prop where
  function : t.fetch FunctionSpec key = .ok f
  derived : Derived agent config (before agent config (s.fetch FunctionSpec key)) f
  reread : t.fetch AgentSpec key = .ok agent'
  wants : agent'.WantsSame agent
  status : agent'.status = AgentStatus.ofFunction f.status
  others : ∀ kind' key', Address.of (κ := κ) kind' key' ≠ Address.of .function key →
    Address.of (κ := κ) kind' key' ≠ Address.of .agent key →
    t.find? kind' key' = s.find? kind' key'

/-- After the documents were composed, the function is refused and nothing changes, or function and
agent agree afterwards; then nothing was announced exactly if nothing was done. -/
theorem runOn_conclude_cases (home : s.fetch AgentSpec key = .ok agent)
    (plain : ∀ e ∈ config.entries, e.2.isPlain = true) :
    (∃ e, verdict agent (intended agent config) (s.fetch FunctionSpec key) = .refused e ∧
      (conclude agent key config).runOn s = (.error e, ⟨s, []⟩)) ∨
    ∃ action told w f agent', (conclude agent key config).runOn s =
        (.ok (.synced action told), w) ∧
      Settled agent config key s w.store f agent' ∧
      (w = ⟨s, []⟩ ∧ action = .unchanged ∧ told = false ∧
          verdict agent (intended agent config) (s.fetch FunctionSpec key) = .kept ∧
          agent.status = AgentStatus.ofFunction f.status ∨
        w.announced ≠ [] ∧ ¬(action = .unchanged ∧ told = false)) := by
  rw [conclude, Routine.runOn_bind]
  rcases runOn_syncFunction_cases home plain with ⟨e, refused, run⟩ | ⟨f, kept, run, placed⟩ |
      ⟨action, t, a, f, acted, run, placed⟩
  · left
    rw [run]
    exact ⟨e, refused, rfl⟩
  · right
    rw [run]
    simp only [Routine.runOn_bind, Written.after_nil]
    rcases runOn_syncStatus_cases home placed.read with ⟨same, run'⟩ |
        ⟨t, a, agent', differs, run', read', wants, status, others⟩
    · rw [run']
      exact ⟨.unchanged, false, _, f, agent, rfl,
        ⟨placed.read, placed.derived, home, .refl agent, same, fun _ _ _ _ => rfl⟩,
        .inl ⟨rfl, rfl, rfl, kept, same⟩⟩
    · rw [run']
      refine ⟨.unchanged, true, _, f, agent', rfl, ⟨?_, placed.derived, read', wants, status,
        fun kind' key' _ ne => others kind' key' ne⟩,
        .inr ⟨List.cons_ne_nil _ _, fun idle => Bool.noConfusion idle.2⟩⟩
      exact (Store.fetch_congr (others .function key (Address.function_ne_agent key key))).trans
        placed.read
  · right
    rw [run]
    have home' : t.fetch AgentSpec key = .ok agent := by
      rw [← home]
      exact Store.fetch_congr (placed.others .agent key (Address.function_ne_agent key key).symm)
    simp only [Routine.runOn_bind]
    rcases runOn_syncStatus_cases home' placed.read with ⟨same, run'⟩ |
        ⟨u, b, agent', differs, run', read', wants, status, others⟩
    · rw [run']
      exact ⟨action, false, _, f, agent, rfl,
        ⟨placed.read, placed.derived, home', .refl agent, same,
          fun kind' key' ne _ => placed.others kind' key' ne⟩,
        .inr ⟨List.cons_ne_nil _ _, fun idle => acted idle.1⟩⟩
    · rw [run']
      refine ⟨action, true, _, f, agent', rfl, ⟨?_, placed.derived, read', wants, status,
        fun kind' key' ne ne' => (others kind' key' ne').trans (placed.others kind' key' ne)⟩,
        .inr ⟨List.cons_ne_nil _ _, fun idle => Bool.noConfusion idle.2⟩⟩
      exact (Store.fetch_congr (others .function key (Address.function_ne_agent key key))).trans
        placed.read

/-! ### The whole invocation -/

/-- An invocation for a stored agent fails and changes nothing, or function and agent agree
afterwards; then nothing was announced exactly if nothing was done. -/
theorem runOn_sync_cases (broker : BrokerSettings) (home : s.fetch AgentSpec key = .ok agent) :
    (∃ e, (sync broker key agent).run.runOn s = (.error e, ⟨s, []⟩)) ∨
    ∃ config action told w f agent', agent.spec.validate = .ok () ∧
      (Documents.compose broker agent).endOn s = .ok config ∧
      (sync broker key agent).run.runOn s = (.ok (.synced action told), w) ∧
      Settled agent config key s w.store f agent' ∧
      (w = ⟨s, []⟩ ∧ action = .unchanged ∧ told = false ∧
          verdict agent (intended agent config) (s.fetch FunctionSpec key) = .kept ∧
          agent.status = AgentStatus.ofFunction f.status ∨
        w.announced ≠ [] ∧ ¬(action = .unchanged ∧ told = false)) := by
  rw [runOn_sync]
  cases agent.spec.validate with
  | error e => exact .inl ⟨e, rfl⟩
  | ok u =>
    cases composed : (Documents.compose broker agent).endOn s with
    | error e => exact .inl ⟨e, rfl⟩
    | ok config =>
      rcases runOn_conclude_cases home (Documents.plain_of_compose composed) with ⟨e, -, run⟩ |
          ⟨action, told, w, f, agent', run, settled, idle⟩
      · exact .inl ⟨e, run⟩
      · exact .inr ⟨config, action, told, w, f, agent', rfl, rfl, run, settled, idle⟩

/-- The function and the status of an agent are as an invocation would have them. -/
def AtRest (broker : BrokerSettings) (agent : AgentRecord) (key : RecordKey) (s : Store κ) : Prop :=
  ∃ config f, agent.spec.validate = .ok () ∧
    (Documents.compose broker agent).endOn s = .ok config ∧ s.fetch FunctionSpec key = .ok f ∧
    verdict agent (intended agent config) (.ok f) = .kept ∧
    agent.status = AgentStatus.ofFunction f.status

/-- An invocation at rest only reads, and tells that there was nothing to do. -/
theorem runOn_sync_of_atRest (rest : AtRest broker agent key s) :
    (sync broker key agent).run.ReadsOn s ∧
      (sync broker key agent).run.runOn s = (.ok (.synced .unchanged false), ⟨s, []⟩) := by
  obtain ⟨config, f, valid, composed, read, kept, same⟩ := rest
  have fetched : ((s.answer (.get .function key)).1 >>= Client.typed :
    Except StoreError FunctionRecord) = .ok f := read
  have status : (syncStatus agent key).run.ReadsOn s ∧
      (syncStatus agent key).run.runOn s = (.ok false, ⟨s, []⟩) := by
    rw [runOn_syncStatus, syncStatus_run, read]
    refine ⟨⟨rfl, ?_⟩, ?_⟩
    · simp only [fetched, mirror, if_pos same]
      trivial
    · rw [mirror, if_pos same]
      rfl
  have function : (syncFunction agent (intended agent config) key).run.ReadsOn s ∧
      (syncFunction agent (intended agent config) key).run.runOn s =
        (.ok .unchanged, ⟨s, []⟩) := by
    rw [runOn_syncFunction, syncFunction_run, read, kept]
    refine ⟨⟨rfl, ?_⟩, rfl⟩
    simp only [fetched, kept]
    trivial
  have concluded : (conclude agent key config).ReadsOn s := by
    refine function.1.bind ?_
    rw [function.2]
    exact status.1.bind trivial
  constructor
  · rw [sync_run, valid]
    refine ((Documents.compose_readsOnly broker agent).readsOn s).bind ?_
    rw [show ((Documents.compose broker agent).run.runOn s).1 = .ok config from composed]
    exact concluded
  · rw [runOn_sync, valid, composed]
    simp only [conclude, Routine.runOn_bind, function.2, status.2, Written.after_nil]
    rfl

/-- An invocation tells that there was nothing to do exactly at rest. -/
theorem runOn_sync_idle_iff (home : s.fetch AgentSpec key = .ok agent) :
    (sync broker key agent).run.runOn s = (.ok (.synced .unchanged false), ⟨s, []⟩) ↔
      AtRest broker agent key s := by
  refine ⟨fun run => ?_, fun rest => (runOn_sync_of_atRest rest).2⟩
  rcases runOn_sync_cases broker home with ⟨e, failed⟩ |
      ⟨config, action, told, w, f, agent', valid, composed, run', settled, idle⟩
  · rw [run] at failed
    cases failed
  · rw [run] at run'
    obtain ⟨done, rfl⟩ := Prod.mk.inj run'
    rcases idle with ⟨-, -, -, kept, same⟩ | ⟨announced, -⟩
    · have read := settled.function
      exact ⟨config, f, valid, composed, read, by rwa [read] at kept, same⟩
    · exact absurd rfl announced

/-! ### Agreement judged again -/

/-- Where control of the function was not contested, it is kept when judged again. -/
theorem Settled.kept {t : Store κ} {f : FunctionRecord} {agent' : AgentRecord}
    (h : Settled agent config key s t f agent')
    (plain : ∀ e ∈ config.entries, e.2.isPlain = true)
    (uncontested : ¬ Metadata.Contested .agent agent.metadata
      (before agent config (s.fetch FunctionSpec key))) :
    verdict agent' (intended agent' config) (.ok f) = .kept := by
  obtain ⟨m, taken, sameKey, references⟩ := h.derived.controlled
  have again := Metadata.setController_again taken uncontested
  have key_m : f.metadata.key = m.key := by
    rw [sameKey, Metadata.setController_eq taken]
    rfl
  rw [h.wants.intended_eq]
  refine (verdict_kept_iff plain).mpr ⟨f, { f.metadata with ownerReferences := m.ownerReferences },
    rfl, ?_, references.symm, h.derived.spec, h.derived.labels⟩
  rw [h.wants.setController_eq, Metadata.setController_congr_owned key_m references, again]
  rfl

/-- Where control of the function was contested, it is refused when judged again. -/
theorem Settled.refused {t : Store κ} {f : FunctionRecord} {agent' : AgentRecord}
    (h : Settled agent config key s t f agent')
    (contested : Metadata.Contested .agent agent.metadata
      (before agent config (s.fetch FunctionSpec key))) (i : FunctionRecord) :
    ∃ e, verdict agent' i (.ok f) = .refused e := by
  obtain ⟨m, taken, sameKey, references⟩ := h.derived.controlled
  obtain ⟨e, again⟩ := Metadata.setController_again_of_contested taken contested
  have key_m : f.metadata.key = m.key := by
    rw [sameKey, Metadata.setController_eq taken]
    rfl
  have failed : Metadata.setController .agent agent'.metadata f.metadata = .error e := by
    rw [h.wants.setController_eq, Metadata.setController_congr_owned key_m references, again]
    rfl
  exact ⟨.ownership e, by simp only [verdict, failed]⟩

end Reconciler

end ControlPlane
