import ControlPlane.Proofs.Record.Ownership
import ControlPlane.Proofs.Reconcile.Composition
import ControlPlane.Reconcile.Invocation

/-!
The calls of an invocation: which store calls it makes, in which order and with which records, as
equations between routines. What becomes of the function is decided by a verdict on the stored one
(`Reconciler.verdict`); every later statement about an invocation, run alone or interleaved with
others, goes through these equations (`Reconciler.reconcile_run`, `Reconciler.sync_run`).
-/

namespace ControlPlane

/-- The key of a function is the key of its agent. -/
@[simp] theorem FunctionRecord.key_derived (agent : AgentRecord) (config : Documents) :
    (FunctionRecord.derived agent config).key = agent.key := rfl

namespace Reconciler

/-! ### The intended function -/

/-- The function of an agent, under the agent's control. -/
def intended (agent : AgentRecord) (config : Documents) : FunctionRecord :=
  { FunctionRecord.derived agent config with
    metadata := { (FunctionRecord.derived agent config).metadata with
      ownerReferences := [agent.metadata.controllerReference .agent] } }

theorem control_derived (agent : AgentRecord) (config : Documents) :
    (control agent (FunctionRecord.derived agent config)).run =
      .done (.ok (intended agent config)) := by
  have taken := Metadata.setController_of_unowned .agent agent.metadata
    (FunctionRecord.derived agent config).metadata rfl rfl
  rw [control, taken]
  rfl

/-! ### The verdict on the stored function -/

/-- What is to become of the function. -/
inductive Verdict where
  | refused (cause : ReconcileError)
  | kept
  /-- It is written as this record. -/
  | revised (f : FunctionRecord)
  | missing

/-- A stored function with the intended specification and labels, under other owners. -/
def revision (stored : FunctionRecord) (metadata : Metadata) (intended : FunctionRecord) :
    FunctionRecord :=
  { stored with
    spec := intended.spec
    metadata := { metadata with labels := intended.metadata.labels } }

/-- Judges the function that was read. -/
def verdict (agent : AgentRecord) (intended : FunctionRecord) :
    Except StoreError FunctionRecord → Verdict
  | .ok stored =>
    match Metadata.setController .agent agent.metadata stored.metadata with
    | .error e => .refused (.ownership e)
    | .ok metadata =>
      if FunctionRecord.hasDrifted { stored with metadata } intended ||
          metadata.ownerReferences != stored.metadata.ownerReferences then
        .revised (revision stored metadata intended)
      else .kept
  | .error e => if e.isNotFound then .missing else .refused (.store e)

theorem verdict_revised {agent : AgentRecord} {i f : FunctionRecord}
    {read : Except StoreError FunctionRecord}
    (h : verdict agent i read = .revised f) :
    ∃ stored m, read = .ok stored ∧
      Metadata.setController .agent agent.metadata stored.metadata = .ok m ∧
      f = revision stored m i := by
  cases read with
  | error e =>
    simp only [verdict] at h
    split at h <;> cases h
  | ok stored =>
    simp only [verdict] at h
    cases taken : Metadata.setController .agent agent.metadata stored.metadata with
    | error e => simp [taken] at h
    | ok m =>
      simp only [taken] at h
      split at h
      · cases h
        exact ⟨stored, m, rfl, taken, rfl⟩
      · cases h

theorem verdict_missing {agent : AgentRecord} {i : FunctionRecord}
    {read : Except StoreError FunctionRecord} (h : verdict agent i read = .missing) :
    ∃ e, read = .error e ∧ e.isNotFound := by
  cases read with
  | error e =>
    simp only [verdict] at h
    split at h
    · exact ⟨e, rfl, ‹_›⟩
    · cases h
  | ok stored =>
    simp only [verdict] at h
    split at h
    · cases h
    · split at h <;> cases h

/-- A function is kept if it has the intended specification and labels, and taking control of it
changes no reference. -/
theorem verdict_kept_iff {agent : AgentRecord} {i : FunctionRecord}
    {read : Except StoreError FunctionRecord}
    (plain : ∀ e ∈ i.spec.config.entries, e.2.isPlain = true) :
    verdict agent i read = .kept ↔ ∃ stored m, read = .ok stored ∧
      Metadata.setController .agent agent.metadata stored.metadata = .ok m ∧
      m.ownerReferences = stored.metadata.ownerReferences ∧ stored.spec = i.spec ∧
      stored.metadata.labels = i.metadata.labels := by
  cases read with
  | error e =>
    simp only [verdict, reduceCtorEq, false_and, exists_const, iff_false]
    split <;> nofun
  | ok stored =>
    simp only [verdict, Except.ok.injEq, exists_and_left, exists_eq_left']
    cases taken : Metadata.setController .agent agent.metadata stored.metadata with
    | error e => simp
    | ok m =>
      have labels : m.labels = stored.metadata.labels := by rw [Metadata.setController_eq taken]
      simp only [FunctionRecord.hasDrifted, labels, Except.ok.injEq, exists_eq_left']
      simp [bne, FunctionSpec.same_iff_eq plain, Dictionary.beq_eq_true_iff, and_comm]

/-- A write is told as done if the store answered it with a record of the kind. -/
def told {σ τ α : Type} [RecordShape σ τ] (a : α) (o : Except StoreError Record) :
    Except ReconcileError α :=
  ((o >>= Client.typed (σ := σ)).mapError ReconcileError.store).map fun _ => a

/-- Carries a verdict out. -/
def Verdict.carryOut (intended : FunctionRecord) :
    Verdict → Routine (Except ReconcileError FunctionAction)
  | refused e => .done (.error e)
  | kept => .done (.ok .unchanged)
  | revised f => .call (.update .function f.untyped) fun o =>
    .done (told (σ := FunctionSpec) .updated o)
  | missing => .call (.create .function intended.untyped) fun o =>
    .done (told (σ := FunctionSpec) .created o)

theorem syncFunction_run (agent : AgentRecord) (intended : FunctionRecord) (key : RecordKey) :
    (syncFunction agent intended key).run = .call (.get .function key) fun o =>
      (verdict agent intended (o >>= Client.typed)).carryOut intended := by
  refine (Client.get_result_bind_run key _).trans (congrArg _ (funext fun o => ?_))
  generalize (o >>= Client.typed : Except StoreError FunctionRecord) = read
  cases read with
  | error e =>
    simp only [verdict]
    split
    · exact Client.write_bind_run (Client.create_run intended) ReconcileError.store _
    · rfl
  | ok stored =>
    simp only [verdict, control]
    cases Metadata.setController .agent agent.metadata stored.metadata with
    | error e => rfl
    | ok metadata =>
      rw [Outcome.ok_mapError, Attempt.bind_run]
      simp only [Attempt.bind_run, Attempt.ofExcept_run, Routine.done_bind, Attempt.pure_run]
      split
      · exact Client.write_bind_run (Client.update_run _) ReconcileError.store _
      · rfl

/-! ### The status -/

/-- The agent with the status that its function has. -/
def mirrored (agent : AgentRecord) (observed : FunctionRecord) : AgentRecord :=
  { agent with status := AgentStatus.ofFunction observed.status }

/-- Writes the status of the function that was read to the agent if they differ. -/
def mirror (agent : AgentRecord) :
    Except StoreError FunctionRecord → Routine (Except ReconcileError Bool)
  | .error e => .done (.error (.store e))
  | .ok observed =>
    if agent.status = AgentStatus.ofFunction observed.status then .done (.ok false)
    else .call (.updateStatus .agent (mirrored agent observed).untyped) fun o =>
      .done (told (σ := AgentSpec) true o)

theorem syncStatus_run (agent : AgentRecord) (key : RecordKey) :
    (syncStatus agent key).run = .call (.get .function key) fun o =>
      mirror agent (o >>= Client.typed) := by
  refine (Client.get_mapError_bind_run ReconcileError.store key _).trans
    (congrArg _ (funext fun o => ?_))
  generalize (o >>= Client.typed : Except StoreError FunctionRecord) = read
  cases read with
  | error e => rfl
  | ok observed =>
    simp only [mirror]
    split
    · rfl
    · exact Client.write_bind_run (Client.updateStatus_run _) ReconcileError.store _

/-! ### The whole invocation -/

/-- The rest of an invocation after its documents were composed. -/
def conclude (agent : AgentRecord) (key : RecordKey) (config : Documents) :
    Routine (Except ReconcileError Reconciled) :=
  (syncFunction agent (intended agent config) key).run.bind fun
    | .error e => .done (.error e)
    | .ok action => (syncStatus agent key).run.bind fun o => .done (o.map (.synced action))

theorem sync_run (broker : BrokerSettings) (key : RecordKey) (agent : AgentRecord) :
    (sync broker key agent).run =
      match agent.spec.validate with
      | .error e => .done (.error e)
      | .ok () => (Documents.compose broker agent).run.bind fun
        | .error e => .done (.error e)
        | .ok config => conclude agent key config := by
  rw [sync, Attempt.bind_run, Attempt.ofExcept_run]
  cases agent.spec.validate with
  | error e => rfl
  | ok u =>
    simp only [Routine.bind, Attempt.bind_run, control_derived, conclude]
    congr 1
    funext o
    cases o with
    | error e => rfl
    | ok config =>
      simp only
      congr 1
      funext o
      cases o with
      | error e => rfl
      | ok action =>
        simp only
        congr 1
        funext o
        cases o <;> rfl

theorem reconcile_run (broker : BrokerSettings) (key : RecordKey) :
    (reconcile broker key).run = .call (.get .agent key) fun o =>
      match (o >>= Client.typed : Except StoreError AgentRecord) with
      | .error e => if e.isNotFound then .done (.ok .agentNotFound) else .done (.error (.store e))
      | .ok agent => (sync broker key agent).run := by
  refine (Client.get_result_bind_run key _).trans (congrArg _ (funext fun o => ?_))
  generalize (o >>= Client.typed : Except StoreError AgentRecord) = read
  cases read with
  | error e =>
    simp only
    split <;> rfl
  | ok agent => rfl

/-! ### Small stores -/

/-- The store after calls on an empty one. -/
def storeAfter (calls : List Call) : Store RecordId :=
  calls.foldl (fun s c => (s.answer c).2.store) (.empty ⟨fun n => "gen-" ++ toString (n + 1), 0⟩)

/-- A store that holds nothing but an agent without tools. -/
def newAgent : Store RecordId :=
  storeAfter [.create .agent ⟨{ name := "a", «namespace» := "d" }, .obj [], .null⟩]

/-- An agent, and at its key a function that runs but is not under the agent's control yet. -/
def runningFunction : Store RecordId :=
  storeAfter [
    .create .agent ⟨{ name := "a", «namespace» := "d" }, .obj [], .null⟩,
    .create .function ⟨{ name := "a", «namespace» := "d" },
      .obj [("module", .str "m"), ("package", .str "p")], .null⟩,
    .updateStatus .function ⟨{ name := "a", «namespace» := "d", resourceVersion := 1 }, .null,
      .obj [("readyReplicas", .int 1)]⟩]

end Reconciler

end ControlPlane
