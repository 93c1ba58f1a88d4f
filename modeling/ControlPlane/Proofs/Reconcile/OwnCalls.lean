import ControlPlane.Controller.Basic
import ControlPlane.Proofs.Reconcile.Calls

/-!
The calls that an invocation may make. It reads, and it writes the function and the status of the
agent at its own key (`Reconciler.makesOnly_reconcile`); such a write fails and changes nothing, or
it is announced for that key and leaves every other record alone (`Call.OwnWrite.answer`). An
invocation whose call is given up fails at once (`Reconciler.givesUp_reconcile`).
-/

namespace ControlPlane

variable {α β ε ε' κ : Type} [Address κ]

/-! ### Own calls -/

/-- A write of the function at a key, with the label of that key's agent, or of the status of the
agent there. -/
inductive Call.OwnWrite (key : RecordKey) : Call → Prop where
  | create {r : Record} (here : r.key = key)
      (label : r.metadata.labels.find? Metadata.agentLabel = some key.name) :
      OwnWrite key (.create .function r)
  | update {r : Record} (here : r.key = key)
      (label : r.metadata.labels.find? Metadata.agentLabel = some key.name) :
      OwnWrite key (.update .function r)
  | updateStatus {r : Record} (here : r.key = key) : OwnWrite key (.updateStatus .agent r)

/-- A call that only reads, or that writes at a key. -/
def Call.Own (key : RecordKey) (c : Call) : Prop := c.isWrite = false ∨ c.OwnWrite key

/-- A function with the label of an agent of its namespace concerns that agent. -/
theorem Announcement.agentKey?_of_label {change : Change} {r : Record} {key : RecordKey}
    (here : r.key = key) (label : r.metadata.labels.find? Metadata.agentLabel = some key.name) :
    (Announcement.mk change .function r).agentKey? = some key := by
  subst here
  simp only [agentKey?, label, Option.map_some]
  rfl

/-- A write at a key fails and changes no record, or it is announced for the key and changes at most
the function and the agent there. -/
theorem Call.OwnWrite.answer {c : Call} {key : RecordKey} (own : c.OwnWrite key)
    (accepted : Address.refusal? κ key = none) (s : Store κ) :
    (∃ e, (s.answer c).1 = .error e) ∧ s.Stays (s.answer c).2 ∨
      (∃ a ∈ (s.answer c).2.announced, a.agentKey? = some key) ∧
        ∀ kind k, Address.of (κ := κ) kind k ≠ Address.of .function key →
          Address.of (κ := κ) kind k ≠ Address.of .agent key →
          (s.answer c).2.store.find? kind k = s.find? kind k := by
  cases own with
  | @create r here label =>
    rcases s.answer_create .function r with ⟨e, uids, failed, goesOn⟩ | ⟨uid, s', done, -, puts, -⟩
    · exact .inl ⟨⟨e, congrArg Prod.fst failed⟩, uids, goesOn, congrArg Prod.snd failed⟩
    · rw [done]
      refine .inr ⟨⟨_, List.mem_singleton_self _, Announcement.agentKey?_of_label here label⟩,
        fun kind k ne _ => puts.others kind k ?_⟩
      rwa [← here] at ne
  | @update r here label =>
    rcases s.answer_update .function r with ⟨e, failed⟩ | ⟨q, s', done, found, -, puts, -⟩
    · exact .inl ⟨⟨e, congrArg Prod.fst failed⟩, .of_eq (congrArg Prod.snd failed)⟩
    · rw [here] at found
      have key_q : q.key = key := Store.key_of_find? accepted found
      rw [done]
      refine .inr ⟨⟨_, List.mem_singleton_self _, Announcement.agentKey?_of_label key_q label⟩,
        fun kind k ne _ => puts.others kind k ?_⟩
      rwa [← key_q] at ne
  | @updateStatus r here =>
    rcases s.answer_updateStatus .agent r with ⟨e, failed⟩ | ⟨q, s', done, found, -, puts, -⟩
    · exact .inl ⟨⟨e, congrArg Prod.fst failed⟩, .of_eq (congrArg Prod.snd failed)⟩
    · rw [here] at found
      have key_q : q.key = key := Store.key_of_find? accepted found
      rw [done]
      refine .inr ⟨⟨_, List.mem_singleton_self _, congrArg some key_q⟩,
        fun kind k _ ne => puts.others kind k ?_⟩
      rwa [← key_q] at ne

namespace Routine

/-- Every call that the routine makes, whatever stores answered the calls before it, is of a
sort. -/
def MakesOnly (κ : Type) [Address κ] (sort : Call → Prop) : Routine α → Prop
  | done _ => True
  | call c resume => sort c ∧ ∀ s : Store κ, (resume (s.answer c).1).MakesOnly κ sort

variable {sort : Call → Prop}

theorem MakesOnly.bind {r : Routine α} {f : α → Routine β} (h : r.MakesOnly κ sort)
    (next : ∀ a, (f a).MakesOnly κ sort) : (r.bind f).MakesOnly κ sort := by
  induction r with
  | done a => exact next a
  | call c resume ih => exact ⟨h.1, fun s => ih _ (h.2 s)⟩

theorem ReadsOnly.makesOnly {r : Routine α} (h : r.ReadsOnly)
    (reads : ∀ c, c.isWrite = false → sort c) : r.MakesOnly κ sort := by
  induction r with
  | done a => trivial
  | call c resume ih => exact ⟨reads c h.1, fun s => ih _ (h.2 _)⟩

/-- Wherever a call of the routine is given up, the routine fails at once. -/
def GivesUp : Routine (Except ε α) → Prop
  | done _ => True
  | call _ resume => (∃ e, resume (.error .timeout) = done (.error e)) ∧ ∀ o, (resume o).GivesUp

theorem GivesUp.bind {r : Routine (Except ε α)} {f : Except ε α → Routine (Except ε' β)}
    (h : r.GivesUp) (fails : ∀ e, ∃ e', f (.error e) = done (.error e'))
    (next : ∀ o, (f o).GivesUp) : (r.bind f).GivesUp := by
  induction r with
  | done a => exact next a
  | call c resume ih =>
    obtain ⟨e, failed⟩ := h.1
    obtain ⟨e', failed'⟩ := fails e
    refine ⟨⟨e', ?_⟩, fun o => ih o (h.2 o)⟩
    show (resume (.error .timeout)).bind f = _
    rw [failed, done_bind, failed']

end Routine

namespace Attempt

theorem givesUp_bind {a : Attempt ε α} {f : α → Attempt ε β} (first : a.run.GivesUp)
    (next : ∀ x, (f x).run.GivesUp) : (a >>= f).run.GivesUp := by
  rw [bind_run]
  refine first.bind (fun e => ⟨e, rfl⟩) fun o => ?_
  cases o with
  | error e => trivial
  | ok x => exact next x

theorem givesUp_mapError {f : ε → ε'} {a : Attempt ε α} (h : a.run.GivesUp) :
    (a.mapError f).run.GivesUp := by
  rw [mapError_run]
  exact h.bind (fun e => ⟨f e, rfl⟩) fun _ => trivial

end Attempt

/-! ### Composition -/

theorem Client.givesUp_get {σ τ : Type} [RecordShape σ τ] (key : RecordKey) :
    (Client.get σ key).run.GivesUp := by
  rw [get_run]
  exact ⟨⟨.timeout, rfl⟩, fun _ => trivial⟩

theorem ToolReference.givesUp_resolve (tool : ToolReference) (home : String) :
    (tool.resolve home).run.GivesUp :=
  Attempt.givesUp_bind (Attempt.givesUp_mapError (Client.givesUp_get _)) fun _ =>
    Attempt.givesUp_bind (Attempt.givesUp_mapError (Client.givesUp_get _)) fun _ => trivial

theorem AgentContext.givesUp_resolveTools (home : String) (tools : List ToolReference)
    (found : Dictionary String ToolContext) : (resolveTools home tools found).run.GivesUp := by
  induction tools generalizing found with
  | nil => trivial
  | cons tool rest ih =>
    exact Attempt.givesUp_bind (Attempt.givesUp_mapError (tool.givesUp_resolve home)) fun _ => ih _

theorem Documents.givesUp_compose (broker : BrokerSettings) (agent : AgentRecord) :
    (compose broker agent).run.GivesUp := by
  refine Attempt.givesUp_bind (Attempt.givesUp_mapError ?_) fun _ => trivial
  exact Attempt.givesUp_bind (AgentContext.givesUp_resolveTools _ _ ∅) fun _ => trivial

/-! ### The invocation -/

namespace Reconciler

variable {broker : BrokerSettings} {key : RecordKey} {agent : AgentRecord} {config : Documents}

theorem label_intended (agent : AgentRecord) (config : Documents) :
    (intended agent config).metadata.labels.find? Metadata.agentLabel =
      some agent.metadata.name :=
  Dictionary.find?_insert_self ∅ Metadata.agentLabel agent.metadata.name

/-- A function that is created is written at its agent's key. -/
theorem ownWrite_create (config : Documents) (here : agent.key = key) :
    (Call.create .function (intended agent config).untyped).OwnWrite key := by
  refine .create here ?_
  rw [← here]
  exact label_intended agent config

/-- A function that is revised is written where it was read. -/
theorem ownWrite_update {read : Except StoreError FunctionRecord} {f : FunctionRecord}
    (here : agent.key = key) (same : ∀ stored, read = .ok stored → stored.key = key)
    (judged : verdict agent (intended agent config) read = .revised f) :
    (Call.update .function f.untyped).OwnWrite key := by
  obtain ⟨stored, m, rfl, taken, rfl⟩ := verdict_revised judged
  have key_m : m.key = key := by
    rw [Metadata.setController_eq taken]
    exact same stored rfl
  refine .update key_m ?_
  rw [← here]
  exact label_intended agent config

/-- The status of an agent is written where the agent was read. -/
theorem ownWrite_updateStatus (here : agent.key = key) (observed : FunctionRecord) :
    (Call.updateStatus .agent (mirrored agent observed).untyped).OwnWrite key :=
  .updateStatus here

/-- A sort of calls that has the writes which an invocation for a key may make for an agent. -/
structure Admits (κ : Type) [Address κ] (sort : Call → Prop) (key : RecordKey)
    (agent : AgentRecord) : Prop where
  create : ∀ config, sort (.create .function (intended agent config).untyped)
  update : ∀ config (s : Store κ) f,
    verdict agent (intended agent config) (s.fetch FunctionSpec key) = .revised f →
      sort (.update .function f.untyped)
  updateStatus : ∀ observed, sort (.updateStatus .agent (mirrored agent observed).untyped)

section

variable {sort : Call → Prop}

theorem makesOnly_carryOut (admits : Admits κ sort key agent) (s : Store κ) :
    ((verdict agent (intended agent config) (s.fetch FunctionSpec key)).carryOut
      (intended agent config)).MakesOnly κ sort := by
  cases judged : verdict agent (intended agent config) (s.fetch FunctionSpec key) with
  | refused e => trivial
  | kept => trivial
  | revised f => exact ⟨admits.update config s f judged, fun _ => trivial⟩
  | missing => exact ⟨admits.create config, fun _ => trivial⟩

theorem makesOnly_conclude (reads : ∀ c : Call, c.isWrite = false → sort c)
    (admits : Admits κ sort key agent) : (conclude agent key config).MakesOnly κ sort := by
  refine Routine.MakesOnly.bind ?_ fun o => ?_
  · rw [syncFunction_run]
    exact ⟨reads _ rfl, fun s => makesOnly_carryOut admits s⟩
  · cases o with
    | error e => trivial
    | ok action =>
      refine Routine.MakesOnly.bind ?_ fun _ => trivial
      rw [syncStatus_run]
      refine ⟨reads _ rfl, fun s => ?_⟩
      show (mirror agent (s.fetch FunctionSpec key)).MakesOnly κ _
      cases s.fetch FunctionSpec key with
      | error e => trivial
      | ok observed =>
        rw [mirror]
        split
        · trivial
        · exact ⟨admits.updateStatus observed, fun _ => trivial⟩

/-- An invocation reads, and makes the writes for the agent that it reads. -/
theorem makesOnly_reconcile_of (broker : BrokerSettings)
    (reads : ∀ c : Call, c.isWrite = false → sort c)
    (admits : ∀ (s : Store κ) agent, s.fetch AgentSpec key = .ok agent →
      Admits κ sort key agent) : (reconcile broker key).run.MakesOnly κ sort := by
  rw [reconcile_run]
  refine ⟨reads _ rfl, fun s => ?_⟩
  cases read : s.fetch AgentSpec key with
  | error e =>
    have fetched : ((s.answer (.get .agent key)).1 >>= Client.typed :
      Except StoreError AgentRecord) = .error e := read
    simp only [fetched]
    split <;> trivial
  | ok agent =>
    have fetched : ((s.answer (.get .agent key)).1 >>= Client.typed :
      Except StoreError AgentRecord) = .ok agent := read
    simp only [fetched]
    rw [sync_run]
    cases agent.spec.validate with
    | error e => trivial
    | ok u =>
      refine Routine.MakesOnly.bind
        ((Documents.compose_readsOnly broker agent).makesOnly reads) fun o => ?_
      cases o with
      | error e => trivial
      | ok config => exact makesOnly_conclude reads (admits s agent read)

end

/-- An invocation makes no call but its own. -/
theorem makesOnly_reconcile (broker : BrokerSettings) (accepted : Address.refusal? κ key = none) :
    (reconcile broker key).run.MakesOnly κ (Call.Own key) := by
  refine makesOnly_reconcile_of broker (fun _ => .inl) fun s agent read => ?_
  have here : agent.key = key := Store.key_of_fetch accepted read
  constructor
  · intro config
    exact .inr (ownWrite_create config here)
  · intro config t f judged
    exact .inr (ownWrite_update here (fun stored => Store.key_of_fetch accepted) judged)
  · intro observed
    exact .inr (ownWrite_updateStatus here observed)

theorem givesUp_conclude (agent : AgentRecord) (key : RecordKey) (config : Documents) :
    (conclude agent key config).GivesUp := by
  refine Routine.GivesUp.bind ?_ (fun e => ⟨e, rfl⟩) fun o => ?_
  · rw [syncFunction_run]
    refine ⟨⟨.store .timeout, rfl⟩, fun o => ?_⟩
    show ((verdict agent (intended agent config) (o >>= Client.typed)).carryOut _).GivesUp
    cases verdict agent (intended agent config) (o >>= Client.typed) with
    | refused e => trivial
    | kept => trivial
    | revised f => exact ⟨⟨.store .timeout, rfl⟩, fun _ => trivial⟩
    | missing => exact ⟨⟨.store .timeout, rfl⟩, fun _ => trivial⟩
  · cases o with
    | error e => trivial
    | ok action =>
      refine Routine.GivesUp.bind ?_ (fun e => ⟨e, rfl⟩) fun _ => trivial
      rw [syncStatus_run]
      refine ⟨⟨.store .timeout, rfl⟩, fun o => ?_⟩
      show (mirror agent (o >>= Client.typed)).GivesUp
      cases (o >>= Client.typed : Except StoreError FunctionRecord) with
      | error e => trivial
      | ok observed =>
        rw [mirror]
        split
        · trivial
        · exact ⟨⟨.store .timeout, rfl⟩, fun _ => trivial⟩

/-- An invocation fails as soon as one of its calls is given up. -/
theorem givesUp_reconcile (broker : BrokerSettings) (key : RecordKey) :
    (reconcile broker key).run.GivesUp := by
  rw [reconcile_run]
  refine ⟨⟨.store .timeout, rfl⟩, fun o => ?_⟩
  beta_reduce
  generalize (o >>= Client.typed : Except StoreError AgentRecord) = read
  cases read with
  | error e =>
    simp only
    split <;> trivial
  | ok agent =>
    simp only [sync_run]
    cases agent.spec.validate with
    | error e => trivial
    | ok u =>
      refine (Documents.givesUp_compose broker agent).bind (fun e => ⟨e, rfl⟩) fun o => ?_
      cases o with
      | error e => trivial
      | ok config => exact givesUp_conclude agent key config

end Reconciler

end ControlPlane
