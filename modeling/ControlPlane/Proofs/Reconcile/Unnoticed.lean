import ControlPlane.Proofs.Reconcile.OwnCalls
import ControlPlane.Proofs.Store.Deletion
import ControlPlane.Proofs.Store.Interference

/-!
What happens to a store without a notice for a key. A call on agents, or one that an invocation may
make, is announced for the key or leaves the agent and the derived function there as they are
(`Store.noticed_or_unnoticed`); so an agent that is in sync stays so (`Reconciler.Synced.unnoticed`),
and an invocation that succeeds without any notice for its key leaves its agent in sync, whatever
else happens meanwhile (`Reconciler.reconcile_settles`).
-/

namespace ControlPlane

variable {κ : Type} [Address κ]

namespace Store

variable {s s' : Store κ} {key : RecordKey}

/-- The tools of every stored agent are as they were. -/
def ToolsKept (s s' : Store κ) : Prop :=
  ∀ (key : RecordKey) (a : AgentRecord), s.fetch AgentSpec key = .ok a → a.ToolsAlike s s'

/-- The agent at a key is as it was, and so is the function there, unless it was dropped and its label
named another agent or none. -/
structure Quiet (key : RecordKey) (s s' : Store κ) : Prop where
  agent : s'.find? .agent key = s.find? .agent key
  function : s'.find? .function key = s.find? .function key ∨
    s'.find? .function key = none ∧ ∃ f, s.find? .function key = some f ∧
      (Announcement.mk .deleted .function f).agentKey? ≠ some key

/-- The agent at a key and its tools are as they were, and so is the function there, unless it was
dropped and its label named another agent or none. -/
structure Unnoticed (key : RecordKey) (s s' : Store κ) : Prop extends Quiet key s s' where
  tools : ∀ a : AgentRecord, s.fetch AgentSpec key = .ok a → a.ToolsAlike s s'

theorem Quiet.refl (key : RecordKey) (s : Store κ) : s.Quiet key s := ⟨rfl, .inl rfl⟩

theorem Unnoticed.refl (key : RecordKey) (s : Store κ) : s.Unnoticed key s :=
  ⟨.refl key s, fun _ _ tool _ => .refl tool _ s⟩

theorem Unnoticed.trans {t : Store κ} (h : s.Unnoticed key s') (h' : s'.Unnoticed key t) :
    s.Unnoticed key t := by
  refine ⟨⟨h'.agent.trans h.agent, ?_⟩, fun a read tool mem => ?_⟩
  · rcases h.function with same | ⟨none, dropped⟩
    · rw [← same]
      exact h'.function
    · rcases h'.function with same | ⟨none', f, found, -⟩
      · exact .inr ⟨same.trans none, dropped⟩
      · rw [none] at found
        cases found
  · have read' : s'.fetch AgentSpec key = .ok a := (fetch_congr h.agent).trans read
    exact (h.tools a read tool mem).trans (h'.tools a read' tool mem)

/-- A record put for an agent is at the key, or neither the agent nor the function there changes. -/
theorem Puts.here_or_quiet {r : Record} (puts : s.Puts s' .agent r)
    (accepted : Address.refusal? κ key = none) : r.key = key ∨ s.Quiet key s' := by
  by_cases here : r.key = key
  · exact .inl here
  · have apart : Address.of (κ := κ) .agent key ≠ Address.of .agent r.key := fun same =>
      here (Address.of_inj accepted (filed_find? puts.found).2 same).symm
    exact .inr ⟨puts.others .agent key apart, .inl (puts.of_kind (by decide) key)⟩

/-- A deletion announces the agent at the key, or a function with its label, if it drops them. -/
theorem Drops.noticed_or_quiet {announced : List Announcement} (drops : s.Drops s' announced)
    (accepted : Address.refusal? κ key = none) :
    (∃ a ∈ announced, a.agentKey? = some key) ∨ s.Quiet key s' := by
  rcases drops.find? .agent key with agent | ⟨-, r, found, announcedIt⟩
  · rcases drops.find? .function key with function | ⟨none, f, found, announcedIt⟩
    · exact .inr ⟨agent, .inl function⟩
    · by_cases noticed : (Announcement.mk .deleted .function f).agentKey? = some key
      · exact .inl ⟨_, announcedIt, noticed⟩
      · exact .inr ⟨agent, .inr ⟨none, f, found, noticed⟩⟩
  · exact .inl ⟨_, announcedIt, congrArg some (key_of_find? accepted found)⟩

/-- A call that others may make on agents, or that an invocation may make for its key. -/
def Allowed (κ : Type) [Address κ] (c : Call) : Prop :=
  c.kind = .agent ∨ ∃ k, Address.refusal? κ k = none ∧ c.Own k

/-- A call on agents is announced for the agent at a key, or leaves it alone. -/
theorem noticed_or_quiet_of_agents {c : Call} (agents : c.kind = .agent)
    (accepted : Address.refusal? κ key = none) :
    (∃ a ∈ (s.answer c).2.announced, a.agentKey? = some key) ∨ s.Quiet key (s.answer c).2.store := by
  rcases s.answer_cases c with ⟨uids, -, stays⟩ | ⟨change, r, announced, puts⟩ | drops
  · rw [stays]
    exact .inr ⟨rfl, .inl rfl⟩
  · rw [agents] at announced puts
    rcases puts.here_or_quiet accepted with here | quiet
    · rw [announced]
      exact .inl ⟨_, List.mem_singleton_self _, congrArg some here⟩
    · exact .inr quiet
  · exact drops.noticed_or_quiet accepted

/-- A call of an invocation is announced for its key, or leaves other keys alone. -/
theorem noticed_or_quiet_of_own {c : Call} {k : RecordKey} (own : c.Own k)
    (acceptedOwn : Address.refusal? κ k = none) (accepted : Address.refusal? κ key = none) :
    (∃ a ∈ (s.answer c).2.announced, a.agentKey? = some key) ∨ s.Quiet key (s.answer c).2.store := by
  rcases own with read | write
  · rw [s.answer_of_read read]
    exact .inr (.refl key s)
  · rcases write.answer acceptedOwn s with ⟨-, uids, -, stays⟩ | ⟨noticed, others⟩
    · rw [stays]
      exact .inr ⟨rfl, .inl rfl⟩
    · by_cases same : k = key
      · subst same
        exact .inl noticed
      · have apart : ∀ kind : Kind, Address.of (κ := κ) kind key ≠ Address.of kind k :=
          fun kind eq => same (Address.of_inj accepted acceptedOwn eq).symm
        exact .inr ⟨others .agent key (Address.function_ne_agent k key).symm (apart .agent),
          .inl (others .function key (apart .function) (Address.function_ne_agent key k))⟩

/-- A call is announced for a key, or nobody who works on that key need know of it. -/
theorem noticed_or_unnoticed {c : Call} (allowed : Allowed κ c)
    (accepted : Address.refusal? κ key = none) (tools : s.ToolsKept (s.answer c).2.store) :
    (∃ a ∈ (s.answer c).2.announced, a.agentKey? = some key) ∨
      s.Unnoticed key (s.answer c).2.store := by
  rcases allowed with agents | ⟨k, acceptedOwn, own⟩
  · exact (noticed_or_quiet_of_agents agents accepted).imp_right fun quiet => ⟨quiet, tools key⟩
  · exact (noticed_or_quiet_of_own own acceptedOwn accepted).imp_right fun quiet =>
      ⟨quiet, tools key⟩

end Store

namespace Reconciler

variable {broker : BrokerSettings} {key : RecordKey} {s t : Store κ}

/-! ### Agents in sync -/

/-- The function at a key is the one derived from the agent there, with its documents composed now
and under its control, and the agent has its status. -/
structure InSync (broker : BrokerSettings) (s : Store κ) (key : RecordKey) (a : AgentRecord)
    (f : FunctionRecord) (config : Documents) : Prop where
  agent : s.fetch AgentSpec key = .ok a
  function : s.fetch FunctionSpec key = .ok f
  composed : (Documents.compose broker a).endOn s = .ok config
  spec : f.spec = (FunctionRecord.derived a config).spec
  labels : f.metadata.labels = (FunctionRecord.derived a config).metadata.labels
  controlled : a.metadata.controllerReference .agent ∈ f.metadata.ownerReferences
  status : a.status = AgentStatus.ofFunction f.status

/-- The agent at a key, if there is one, is in sync. -/
def Synced (broker : BrokerSettings) (s : Store κ) (key : RecordKey) : Prop :=
  ∀ r, s.find? .agent key = some r → ∃ a f config, InSync broker s key a f config

/-- A function with the label of the agent at its key is not dropped without a notice. -/
theorem function_of_unnoticed {a : AgentRecord} {f : FunctionRecord}
    (accepted : Address.refusal? κ key = none) (unnoticed : s.Unnoticed key t)
    (agent : s.fetch AgentSpec key = .ok a) (function : s.fetch FunctionSpec key = .ok f)
    (label : f.metadata.labels.find? Metadata.agentLabel = some a.metadata.name) :
    t.find? .function key = s.find? .function key := by
  rcases unnoticed.function with same | ⟨none, r, found, silent⟩
  · exact same
  · obtain ⟨r', found', read⟩ := Store.fetch_eq_ok_iff.mp function
    obtain rfl := Option.some.inj (found.symm.trans found')
    have key_r : r.key = key := Store.key_of_find? accepted found
    have key_a : a.key = key := Store.key_of_fetch accepted agent
    have named : a.metadata.name = key.name := congrArg RecordKey.name key_a
    rw [← Client.metadata_of_typed read, named] at label
    exact absurd (Announcement.agentKey?_of_label key_r label) silent

theorem InSync.unnoticed {a : AgentRecord} {f : FunctionRecord} {config : Documents}
    (h : InSync broker s key a f config) (accepted : Address.refusal? κ key = none)
    (unnoticed : s.Unnoticed key t) : InSync broker t key a f config := by
  have label : f.metadata.labels.find? Metadata.agentLabel = some a.metadata.name := by
    rw [h.labels]
    exact label_intended a config
  have function := function_of_unnoticed accepted unnoticed h.agent h.function label
  have composed : (Documents.compose broker a).endOn t = (Documents.compose broker a).endOn s :=
    (Documents.compose_steady broker a s).runOn_eq (unnoticed.tools a h.agent)
  exact { h with
    agent := (Store.fetch_congr unnoticed.agent).trans h.agent
    function := (Store.fetch_congr function).trans h.function
    composed := composed.trans h.composed }

/-- An agent in sync stays so as long as nothing is announced for its key. -/
theorem Synced.unnoticed (h : Synced broker s key) (accepted : Address.refusal? κ key = none)
    (unnoticed : s.Unnoticed key t) : Synced broker t key := by
  intro r found
  rw [unnoticed.agent] at found
  obtain ⟨a, f, config, inSync⟩ := h r found
  exact ⟨a, f, config, inSync.unnoticed accepted unnoticed⟩

/-! ### Invocations without a notice -/

/-- A store that is answered, and that others change, without a notice for a key. -/
def silent (key : RecordKey) : Interference (Store κ) where
  drift := Store.Unnoticed key
  answers c s o t := o = (s.answer c).1 ∧ t = (s.answer c).2.store ∧
    ∀ a ∈ (s.answer c).2.announced, a.agentKey? ≠ some key
  refl := .refl key
  trans := .trans

/-- If the routine succeeds without any notice for the key, it ends in a store of a sort. -/
def SucceedsIn {ε α : Type} (key : RecordKey) (r : Routine (Except ε α)) (s : Store κ)
    (post : α → Store κ → Prop) : Prop :=
  r.Ensures (silent key) (fun _ _ => True) (fun result t => ∀ x, result = .ok x → post x t) s

/-- What is left of an invocation for a key leaves the agent there in sync, if it succeeds without
any notice for the key. -/
def Settles (broker : BrokerSettings) (key : RecordKey)
    (r : Routine (Except ReconcileError Reconciled)) (s : Store κ) : Prop :=
  SucceedsIn key r s fun _ t => Synced broker t key

section

variable {ε α : Type} {post : α → Store κ → Prop}

theorem succeedsIn_error (e : ε) : SucceedsIn key (.done (.error e)) s post := by
  intro t _ x told
  cases told

/-- A write at the key that succeeds would be announced. -/
theorem succeedsIn_of_ownWrite {c : Call} {resume : c.Outcome → Routine (Except ε α)}
    (accepted : Address.refusal? κ key = none) (own : c.OwnWrite key)
    (fails : ∀ e, ∃ e', resume (.error e) = .done (.error e')) :
    SucceedsIn key (.call c resume) s post := by
  rintro t drifted o u ⟨rfl, rfl, quiet⟩
  refine ⟨trivial, ?_⟩
  rcases own.answer accepted t with ⟨⟨e, failed⟩, -⟩ | ⟨⟨announced, mem, noticed⟩, -⟩
  · obtain ⟨e', failed'⟩ := fails e
    rw [failed, failed']
    exact succeedsIn_error e'
  · exact absurd noticed (quiet announced mem)

end

/-- The function that an agent is to have is in place, and nothing was announced for the key since
the agent was read. -/
structure InPlace (agent : AgentRecord) (config : Documents) (key : RecordKey) (s t : Store κ)
    (f : FunctionRecord) : Prop where
  unnoticed : s.Unnoticed key t
  function : t.fetch FunctionSpec key = .ok f
  spec : f.spec = (FunctionRecord.derived agent config).spec
  labels : f.metadata.labels = (FunctionRecord.derived agent config).metadata.labels
  controlled : agent.metadata.controllerReference .agent ∈ f.metadata.ownerReferences

variable {agent : AgentRecord} {config : Documents} {f : FunctionRecord}

theorem InPlace.trans {u : Store κ} (h : InPlace agent config key s t f)
    (accepted : Address.refusal? κ key = none) (home : s.fetch AgentSpec key = .ok agent)
    (unnoticed : t.Unnoticed key u) : InPlace agent config key s u f := by
  have label : f.metadata.labels.find? Metadata.agentLabel = some agent.metadata.name := by
    rw [h.labels]
    exact label_intended agent config
  have home' : t.fetch AgentSpec key = .ok agent := (Store.fetch_congr h.unnoticed.agent).trans home
  have same := function_of_unnoticed accepted unnoticed home' h.function label
  exact { h with
    unnoticed := h.unnoticed.trans unnoticed
    function := (Store.fetch_congr same).trans h.function }

/-- A function in place whose status the agent has is in sync. -/
theorem InPlace.synced (h : InPlace agent config key s t f)
    (home : s.fetch AgentSpec key = .ok agent)
    (composed : (Documents.compose broker agent).endOn s = .ok config)
    (status : agent.status = AgentStatus.ofFunction f.status) : Synced broker t key := by
  intro r _
  refine ⟨agent, f, config, ?_, h.function, ?_, h.spec, h.labels, h.controlled, status⟩
  · exact (Store.fetch_congr h.unnoticed.agent).trans home
  · rw [← composed]
    exact (Documents.compose_steady broker agent s).runOn_eq (h.unnoticed.tools agent home)

theorem syncFunction_succeedsIn (accepted : Address.refusal? κ key = none)
    (home : s.fetch AgentSpec key = .ok agent)
    (plain : ∀ e ∈ config.entries, e.2.isPlain = true) (unnoticed : s.Unnoticed key t) :
    SucceedsIn key (syncFunction agent (intended agent config) key).run t fun _ u =>
      ∃ f, InPlace agent config key s u f := by
  have here : agent.key = key := Store.key_of_fetch accepted home
  rw [syncFunction_run]
  rintro v drifted o w ⟨rfl, same, -⟩
  obtain rfl : v = w := same.symm
  refine ⟨trivial, ?_⟩
  show SucceedsIn key ((verdict agent (intended agent config)
    (v.fetch FunctionSpec key)).carryOut _) v _
  cases judged : verdict agent (intended agent config) (v.fetch FunctionSpec key) with
  | refused e => exact succeedsIn_error e
  | kept =>
    obtain ⟨f, m, read, taken, references, spec, labels⟩ := (verdict_kept_iff plain).mp judged
    have inPlace : InPlace agent config key s v f := by
      refine ⟨unnoticed.trans drifted, read, spec, labels, ?_⟩
      rw [← references]
      exact (Metadata.setController_references taken).1
    exact fun u drifted' _ _ => ⟨f, inPlace.trans accepted home drifted'⟩
  | revised f =>
    -- A write that succeeds is announced for the key, so nothing is promised after it.
    have own := ownWrite_update here (fun _ read => Store.key_of_fetch accepted read) judged
    exact succeedsIn_of_ownWrite accepted own fun e => ⟨.store e, rfl⟩
  | missing =>
    exact succeedsIn_of_ownWrite accepted (ownWrite_create config here) fun e => ⟨.store e, rfl⟩

theorem syncStatus_succeedsIn (accepted : Address.refusal? κ key = none)
    (home : s.fetch AgentSpec key = .ok agent)
    (composed : (Documents.compose broker agent).endOn s = .ok config)
    (inPlace : InPlace agent config key s t f) :
    SucceedsIn key (syncStatus agent key).run t fun _ u => Synced broker u key := by
  have here : agent.key = key := Store.key_of_fetch accepted home
  rw [syncStatus_run]
  rintro v drifted o w ⟨rfl, same, -⟩
  obtain rfl : v = w := same.symm
  refine ⟨trivial, ?_⟩
  have inPlace' := inPlace.trans accepted home drifted
  show SucceedsIn key (mirror agent (v.fetch FunctionSpec key)) v _
  rw [inPlace'.function, mirror]
  split
  · rename_i same
    exact fun u drifted' _ _ => (inPlace'.trans accepted home drifted').synced home composed same
  · exact succeedsIn_of_ownWrite accepted (ownWrite_updateStatus here f) fun e => ⟨.store e, rfl⟩

theorem conclude_settles (accepted : Address.refusal? κ key = none)
    (home : s.fetch AgentSpec key = .ok agent)
    (composed : (Documents.compose broker agent).endOn s = .ok config)
    (unnoticed : s.Unnoticed key t) : Settles broker key (conclude agent key config) t := by
  have function := syncFunction_succeedsIn accepted home (Documents.plain_of_compose composed)
    unnoticed
  refine Routine.Ensures.bind (function.mono fun o u done => ?_)
  cases o with
  | error e => exact succeedsIn_error e
  | ok action =>
    obtain ⟨f, inPlace⟩ := done action rfl
    have status := syncStatus_succeedsIn accepted home composed inPlace
    refine Routine.Ensures.bind (status.mono fun o u done => ?_)
    cases o with
    | error e => exact succeedsIn_error e
    | ok told => exact fun v drifted _ _ => (done told rfl).unnoticed accepted drifted

theorem sync_settles (accepted : Address.refusal? κ key = none)
    (home : s.fetch AgentSpec key = .ok agent) :
    Settles broker key (sync broker key agent).run s := by
  rw [sync_run]
  cases agent.spec.validate with
  | error e => exact succeedsIn_error e
  | ok u =>
    have steady : (Documents.compose broker agent).run.Steady ((silent key).drift s) s :=
      (Documents.compose_steady broker agent s).mono fun t drifted => drifted.tools agent home
    have composing : (Documents.compose broker agent).run.Ensures (silent key) (fun _ _ => True)
        (fun o t => o = (Documents.compose broker agent).endOn s ∧ s.Unnoticed key t) s := by
      refine steady.ensures fun c t o u reads answered => ?_
      obtain ⟨rfl, rfl, -⟩ := answered
      rw [t.answer_of_read reads]
      exact ⟨rfl, rfl, trivial⟩
    refine Routine.Ensures.bind (composing.mono fun o t done => ?_)
    obtain ⟨rfl, drifted⟩ := done
    cases composed : (Documents.compose broker agent).endOn s with
    | error e => exact succeedsIn_error e
    | ok config => exact conclude_settles accepted home composed drifted

/-- An invocation that succeeds without a notice for its key leaves the agent there in sync. -/
theorem reconcile_settles (broker : BrokerSettings) (accepted : Address.refusal? κ key = none)
    (s : Store κ) : Settles broker key (reconcile broker key).run s := by
  rw [reconcile_run]
  rintro v drifted o w ⟨rfl, same, -⟩
  obtain rfl : v = w := same.symm
  refine ⟨trivial, ?_⟩
  cases read : v.fetch AgentSpec key with
  | error e =>
    have fetched : ((v.answer (.get .agent key)).1 >>= Client.typed :
      Except StoreError AgentRecord) = .error e := read
    simp only [fetched]
    split
    · rename_i absent
      intro u drifted' _ _ r found
      have none : v.find? .agent key = none := Store.fetch_notFound_iff.mp ⟨e, read, absent⟩
      rw [drifted'.agent, none] at found
      cases found
    · exact succeedsIn_error _
  | ok agent =>
    have fetched : ((v.answer (.get .agent key)).1 >>= Client.typed :
      Except StoreError AgentRecord) = .ok agent := read
    simp only [fetched]
    exact sync_settles accepted read

end Reconciler

end ControlPlane
