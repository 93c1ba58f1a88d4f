import ControlPlane.Proofs.Reconcile.OwnCalls
import ControlPlane.Proofs.Reconcile.SameKey
import ControlPlane.Proofs.Store.Tracking

/-!
Invocations that are cut off, as by their deadline, and begun again. However many of its calls an
invocation got to make, its writes are made up to some point of those of an invocation that is not
cut off, and the next one makes the rest of them: it tells what the undisturbed one would have told
but for what was done already, and leaves the very store that that one would have left
(`Reconciler.reconcile_restarted`).
-/

namespace ControlPlane

variable {α κ : Type} [Address κ]

/-! ### Routines that are cut off -/

/-- A routine that fails wherever a call of it is given up makes no other call after that. -/
theorem Routine.GivesUp.ends {ε : Type} {r : Routine (Except ε α)} (h : r.GivesUp) (calls : Nat)
    (s : Store κ) : ∃ o, (r.advance Store.respond calls s).1.giveUp = .done o := by
  induction calls generalizing r s with
  | zero =>
    cases r with
    | done o => exact ⟨o, rfl⟩
    | call c resume =>
      obtain ⟨e, failed⟩ := h.1
      exact ⟨.error e, failed⟩
  | succ calls ih =>
    cases r with
    | done o => exact ⟨o, rfl⟩
    | call c resume => exact ih (h.2 _) _

/-- The store that a routine leaves when it is cut off after a number of its calls. -/
def Routine.leaves (r : Routine α) (calls : Nat) (s : Store κ) : Store κ :=
  (r.advance Store.respond calls s).2

namespace Routine

variable {β : Type}

/-- Along its run on a store, a routine makes some writes in turn, and else only reads. -/
def WritesOn : Routine α → List Call → Store κ → Prop
  | done _, writes, _ => writes = []
  | call c resume, writes, s =>
    (c.isWrite = false ∧ (resume (s.answer c).1).WritesOn writes s) ∨
      ∃ rest, writes = c :: rest ∧ (resume (s.answer c).1).WritesOn rest (s.answer c).2.store

theorem ReadsOn.writesOn {r : Routine α} {s : Store κ} (h : r.ReadsOn s) : r.WritesOn [] s := by
  induction r with
  | done a => rfl
  | call c resume ih => exact .inl ⟨h.1, ih _ h.2⟩

theorem WritesOn.bind {r : Routine α} {f : α → Routine β} {writes later : List Call}
    {s : Store κ} (h : r.WritesOn writes s)
    (next : (f (r.runOn s).1).WritesOn later (r.runOn s).2.store) :
    (r.bind f).WritesOn (writes ++ later) s := by
  induction r generalizing writes s with
  | done a =>
    obtain rfl : writes = [] := h
    exact next
  | call c resume ih =>
    rw [runOn_call] at next
    rcases h with ⟨isRead, rest⟩ | ⟨rest, rfl, h⟩
    · rw [s.answer_of_read isRead] at next
      exact .inl ⟨isRead, ih _ rest next⟩
    · exact .inr ⟨rest ++ later, rfl, ih _ h next⟩

/-- A routine that is cut off has made the first of its writes. -/
theorem WritesOn.leaves {r : Routine α} {writes : List Call} {s : Store κ}
    (h : r.WritesOn writes s) (calls : Nat) :
    ∃ made, made <+: writes ∧ r.leaves calls s = s.after made := by
  induction calls generalizing r writes s with
  | zero => exact ⟨[], List.nil_prefix, rfl⟩
  | succ calls ih =>
    cases r with
    | done a => exact ⟨[], List.nil_prefix, rfl⟩
    | call c resume =>
      rcases h with ⟨isRead, rest⟩ | ⟨rest, rfl, h⟩
      · obtain ⟨made, fewer, left⟩ := ih rest
        refine ⟨made, fewer, ?_⟩
        rw [← left, Routine.leaves, advance, Store.respond, s.answer_of_read isRead]
        rfl
      · obtain ⟨made, fewer, left⟩ := ih h
        exact ⟨c :: made, List.cons_prefix_cons.mpr ⟨rfl, fewer⟩, left⟩

end Routine

namespace Reconciler

variable {broker : BrokerSettings} {key : RecordKey} {agent agent' : AgentRecord}
  {config : Documents} {f : FunctionRecord} {s : Store κ}

/-! ### The writes of an invocation -/

theorem Verdict.writesOn_carryOut (v : Verdict) (i : FunctionRecord) (s : Store κ) :
    (v.carryOut i).WritesOn (v.writes i) s := by
  cases v with
  | refused e => rfl
  | kept => rfl
  | revised f => exact .inr ⟨[], rfl, rfl⟩
  | missing => exact .inr ⟨[], rfl, rfl⟩

theorem writesOn_mirror (agent : AgentRecord) (f : FunctionRecord) (s : Store κ) :
    (mirror agent (.ok f)).WritesOn (statusWrites agent f) s := by
  simp only [mirror, statusWrites]
  split
  · rfl
  · exact .inr ⟨[], rfl, rfl⟩

/-- An invocation that succeeds makes its writes in turn, and else only reads. -/
theorem Rehearsed.writesOn (h : Rehearsed broker key s agent config f agent') :
    (reconcile broker key).run.WritesOn (writesAlone agent config key s f) s := by
  have fetched : ((s.answer (.get .agent key)).1 >>= Client.typed : Except StoreError AgentRecord) =
    .ok agent := h.home
  rw [reconcile_run]
  refine .inl ⟨rfl, ?_⟩
  simp only [fetched]
  rw [sync_run, h.valid]
  have reads := (Documents.compose_readsOnly broker agent).readsOn s
  refine reads.writesOn.bind ?_
  rw [reads.runOn, show ((Documents.compose broker agent).run.runOn s).1 = .ok config from h.composed]
  have function : (syncFunction agent (intended agent config) key).run.WritesOn
      (functionWrites agent config key s) s := by
    rw [syncFunction_run]
    exact .inl ⟨rfl, Verdict.writesOn_carryOut _ _ s⟩
  refine function.bind ?_
  obtain ⟨action, acted⟩ := h.acted
  rw [runOn_syncFunction, acted, store_carryOut]
  have status : (syncStatus agent key).run.WritesOn (statusWrites agent f)
      (s.after (functionWrites agent config key s)) := by
    have read := h.fetch_function (List.prefix_append ..) (List.prefix_refl _)
    rw [syncStatus_run]
    refine .inl ⟨rfl, ?_⟩
    show (mirror agent ((s.after _).fetch FunctionSpec key)).WritesOn _ _
    rw [read]
    exact writesOn_mirror agent f _
  have ended : ((syncStatus agent key).run.bind fun o =>
      .done (o.map (Reconciled.synced action))).WritesOn (statusWrites agent f ++ [])
        (s.after (functionWrites agent config key s)) := status.bind rfl
  rwa [List.append_nil] at ended

/-! ### Invocations begun again -/

namespace Rehearsed

variable (h : Rehearsed broker key s agent config f agent')
include h

/-- After the write of the function, an invocation keeps the function and mirrors its status. -/
theorem runOn_after_functionWrites
    (apart : ∀ tool ∈ agent.spec.tools, Address.of (κ := κ) .function
      (tool.key agent.metadata.namespace) ≠ Address.of .function key)
    (uncontested : ∀ stored, s.fetch FunctionSpec key = .ok stored →
      ¬ Metadata.Contested .agent agent.metadata stored.metadata) :
    ∃ told w, (reconcile broker key).run.runOn (s.after (functionWrites agent config key s)) =
        (.ok (.synced .unchanged told), w) ∧
      w.store = s.after (writesAlone agent config key s f) := by
  have inOrder : functionWrites agent config key s <+: writesAlone agent config key s f :=
    List.prefix_append ..
  have home : (s.after (functionWrites agent config key s)).fetch AgentSpec key = .ok agent := by
    rw [← h.home]
    exact Store.fetch_congr (find?_after_functionWrites (List.prefix_refl _) (by decide) key)
  have read := h.fetch_function inOrder (List.prefix_refl _)
  obtain ⟨b, told⟩ := h.told
  have mirrored := store_mirror agent f (s.after (functionWrites agent config key s))
  rw [(runOn_reconcile_of_ok broker home).2, runOn_sync, h.valid, h.composed_after apart inOrder]
  simp only [conclude, Routine.runOn_bind, runOn_syncFunction, read, h.kept uncontested,
    Verdict.carryOut, Routine.runOn_done, runOn_syncStatus, told, Written.after_nil]
  refine ⟨b, _, rfl, ?_⟩
  rw [writesAlone, Store.after_append]
  exact mirrored

/-- However far the writes are made, an invocation succeeds and makes the rest of them. -/
theorem runOn_after
    (apart : ∀ tool ∈ agent.spec.tools, Address.of (κ := κ) .function
      (tool.key agent.metadata.namespace) ≠ Address.of .function key)
    (uncontested : ∀ stored, s.fetch FunctionSpec key = .ok stored →
      ¬ Metadata.Contested .agent agent.metadata stored.metadata)
    {action : FunctionAction} {told : Bool} {w : Written κ}
    (alone : (reconcile broker key).run.runOn s = (.ok (.synced action told), w))
    (all : w.store = s.after (writesAlone agent config key s f))
    {made : List Call} (fewer : made <+: writesAlone agent config key s f) :
    ∃ action' told' w', (reconcile broker key).run.runOn (s.after made) =
        (.ok (.synced action' told'), w') ∧ w'.store = w.store := by
  rw [all]
  rcases writes_cases fewer with rfl | rfl | rfl
  · exact ⟨action, told, w, alone, all⟩
  · obtain ⟨told', w', run, store⟩ := h.runOn_after_functionWrites apart uncontested
    exact ⟨.unchanged, told', w', run, store⟩
  · have idle := (runOn_sync_of_atRest (h.atRest apart uncontested)).2
    rw [(runOn_reconcile_of_ok broker h.settled.reread).2, idle]
    exact ⟨.unchanged, false, _, rfl, rfl⟩

end Rehearsed

/-- An invocation that is cut off after any number of its calls makes no further one. Where the agent
does not name its own function as a tool and the function has at most one controller, another
invocation on the store that was left succeeds, or fails with the same error, as the first would have
done, and leaves the store that the first would have left. -/
theorem reconcile_restarted (broker : BrokerSettings) (key : RecordKey) (s : Store κ) (calls : Nat)
    (apart : ∀ agent, s.fetch AgentSpec key = .ok agent → ∀ tool ∈ agent.spec.tools,
      Address.of (κ := κ) .function (tool.key agent.metadata.namespace) ≠ Address.of .function key)
    (single : ∀ stored, s.find? .function key = some stored →
      (stored.metadata.ownerReferences.filter (·.controller)).length ≤ 1) :
    let alone := (reconcile broker key).run.runOn s
    let again := (reconcile broker key).run.runOn ((reconcile broker key).run.leaves calls s)
    (∃ o, ((reconcile broker key).run.advance Store.respond calls s).1.giveUp = .done o) ∧
      again.1.map Reconciled.again = alone.1.map Reconciled.again ∧
      again.2.store = alone.2.store := by
  intro alone again
  refine ⟨(givesUp_reconcile broker key).ends calls s, ?_⟩
  rcases reconcile_reads_or_synced broker key s with reads | ⟨action, told, w, run⟩
  · -- Nothing is ever written, so the invocation begins again where it began.
    obtain ⟨made, none, left⟩ := reads.writesOn.leaves calls
    rw [List.prefix_nil.mp none, Store.after_nil] at left
    simp only [again, left, alone, and_self]
  · obtain ⟨agent, config, f, agent', rehearsed, all⟩ := rehearsed_of_synced run
    have uncontested : ∀ stored, s.fetch FunctionSpec key = .ok stored →
        ¬ Metadata.Contested .agent agent.metadata stored.metadata :=
      not_contested_of_single single
    obtain ⟨made, fewer, left⟩ := rehearsed.writesOn.leaves calls
    obtain ⟨action', told', w', run', store⟩ :=
      rehearsed.runOn_after (apart agent rehearsed.home) uncontested run all fewer
    simp only [again, left, alone, run, run', store, Except.map, Reconciled.again, and_self]

/-- An invocation is cut off after the write of the function; the next one mirrors the status. -/
theorem runningFunction_restarted :
    let alone := (reconcile default ⟨"d", "a"⟩).run.runOn runningFunction
    let again := (reconcile default ⟨"d", "a"⟩).run.runOn
      ((reconcile default ⟨"d", "a"⟩).run.leaves 3 runningFunction)
    alone.1 = .ok (.synced .updated true) ∧ again.1 = .ok (.synced .unchanged true) ∧
      again.2.store = alone.2.store := by
  have noTools : (runningFunction.fetch AgentSpec ⟨"d", "a"⟩).map (·.spec.tools) = .ok [] := by
    decide +kernel
  have noOwners : (runningFunction.find? .function ⟨"d", "a"⟩).map
      (·.metadata.ownerReferences) = some [] := by decide +kernel
  refine ⟨by decide +kernel, by decide +kernel, ?_⟩
  refine (reconcile_restarted default ⟨"d", "a"⟩ runningFunction 3 ?_ ?_).2.2
  · intro agent home tool mem
    rw [home] at noTools
    rw [show agent.spec.tools = [] from Except.ok.inj noTools] at mem
    cases mem
  · intro stored found
    rw [found] at noOwners
    rw [show stored.metadata.ownerReferences = [] from Option.some.inj noOwners]
    decide

end Reconciler

end ControlPlane
