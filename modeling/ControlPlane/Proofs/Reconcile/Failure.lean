import ControlPlane.Proofs.Reconcile.Alone

/-!
An invocation that fails, with nobody else at work. Nothing that comes after a write can fail: the
record that was written is read back, and the agent is still at the version that was read. So an
invocation either succeeds or has made no write at all (`Reconciler.reconcile_reads_or_synced`), and
one that fails leaves the store as it was (`Reconciler.reconcile_failed_unchanged`).
-/

namespace ControlPlane

variable {κ : Type} [Address κ]

namespace Reconciler

variable {broker : BrokerSettings} {key : RecordKey} {agent : AgentRecord} {config : Documents}
  {s : Store κ}

/-- A function that is refused is only read. -/
theorem syncFunction_readsOn_of_refused {e : ReconcileError}
    (refused : verdict agent (intended agent config) (s.fetch FunctionSpec key) = .refused e) :
    (syncFunction agent (intended agent config) key).run.ReadsOn s := by
  have judged : verdict agent (intended agent config)
      ((s.answer (.get .function key)).1 >>= Client.typed) = .refused e := refused
  rw [syncFunction_run]
  refine ⟨rfl, ?_⟩
  simp only [judged]
  trivial

/-- The rest of an invocation only reads, or it succeeds. -/
theorem conclude_reads_or_synced (home : s.fetch AgentSpec key = .ok agent)
    (plain : ∀ e ∈ config.entries, e.2.isPlain = true) :
    (conclude agent key config).ReadsOn s ∨
      ∃ action told w, (conclude agent key config).runOn s = (.ok (.synced action told), w) := by
  rcases runOn_conclude_cases home plain with ⟨e, refused, -⟩ | ⟨action, told, w, -, -, run, -⟩
  · left
    refine (syncFunction_readsOn_of_refused refused).bind ?_
    rw [runOn_syncFunction, refused]
    trivial
  · exact .inr ⟨action, told, w, run⟩

/-- An invocation makes no write, or it succeeds for an agent that is stored. -/
theorem reconcile_reads_or_synced (broker : BrokerSettings) (key : RecordKey) (s : Store κ) :
    (reconcile broker key).run.ReadsOn s ∨
      ∃ action told w, (reconcile broker key).run.runOn s = (.ok (.synced action told), w) := by
  cases home : s.fetch AgentSpec key with
  | error e => exact .inl (runOn_reconcile_of_error broker home).1
  | ok agent =>
    obtain ⟨reads, run⟩ := runOn_reconcile_of_ok broker home
    rw [reads, run, runOn_sync, sync_run]
    cases agent.spec.validate with
    | error e => exact .inl trivial
    | ok u =>
      have composing := (Documents.compose_readsOnly broker agent).readsOn s
      cases composed : (Documents.compose broker agent).endOn s with
      | error e =>
        left
        refine composing.bind ?_
        rw [show ((Documents.compose broker agent).run.runOn s).1 = .error e from composed]
        trivial
      | ok config =>
        refine (conclude_reads_or_synced home (Documents.plain_of_compose composed)).imp_left ?_
        intro reads
        refine composing.bind ?_
        rw [show ((Documents.compose broker agent).run.runOn s).1 = .ok config from composed]
        exact reads

/-- An invocation that fails makes no write. -/
theorem reconcile_readsOn_of_error {e : ReconcileError}
    (failed : ((reconcile broker key).run.runOn s).1 = .error e) :
    (reconcile broker key).run.ReadsOn s := by
  rcases reconcile_reads_or_synced broker key s with reads | ⟨action, told, w, run⟩
  · exact reads
  · rw [run] at failed
    cases failed

/-- An invocation that fails leaves the store as it was and announces nothing. -/
theorem reconcile_failed_unchanged {e : ReconcileError} {w : Written κ}
    (failed : (reconcile broker key).run.runOn s = (.error e, w)) : w = ⟨s, []⟩ := by
  have unchanged := (reconcile_readsOn_of_error (congrArg Prod.fst failed)).runOn
  rwa [failed] at unchanged

/-- An agent, and at its key a function under the control of another agent. -/
def foreignFunction : Store RecordId :=
  storeAfter [
    .create .agent ⟨{ name := "a", «namespace» := "d" }, .obj [], .null⟩,
    .create .function ⟨{
        name := "a", «namespace» := "d"
        ownerReferences := [⟨.agent, "b", "other", true⟩] },
      .obj [("module", .str "m"), ("package", .str "p")], .null⟩]

/-- A function under foreign control is refused last, and left as it is. -/
theorem foreignFunction_unchanged :
    let run := (reconcile default ⟨"d", "a"⟩).run.runOn foreignFunction
    run.1 = .error (.ownership (.controlled ⟨"d", "a"⟩ .agent "b")) ∧
      run.2 = ⟨foreignFunction, []⟩ := by
  have failed : (reconcile default ⟨"d", "a"⟩).run.runOn foreignFunction =
      (.error (.ownership (.controlled ⟨"d", "a"⟩ .agent "b")),
        ((reconcile default ⟨"d", "a"⟩).run.runOn foreignFunction).2) :=
    Prod.ext (by decide +kernel) rfl
  exact ⟨congrArg Prod.fst failed, reconcile_failed_unchanged failed⟩

end Reconciler

end ControlPlane
