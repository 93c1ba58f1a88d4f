import ControlPlane.Controller.Pass
import ControlPlane.Proofs.Manifest.Application
import ControlPlane.Proofs.Store.Readable

/-!
Everything that is done to a store through manifests, typed calls and invocations keeps it readable.
Such operations may make their calls in any order, beside each other: every record that is stored is
of the form of its kind, and no operation ends with a failure to read a record
(`Operation.readable_of_reaches`).
-/

namespace ControlPlane

open Attempt (Upholds)

/-! ### Failures of reading in other failures -/

/-- Whether a tool was not resolved because a record could not be read. -/
def ResolveError.isSerialization : ResolveError → Bool
  | function _ cause | package _ cause => cause.isSerialization
  | moduleNotFound .. | missingRequestSource _ => false

/-- Whether an invocation failed because a record could not be read. -/
def ReconcileError.isSerialization : ReconcileError → Bool
  | toolResolution _ cause => cause.isSerialization
  | compose _ _ cause => cause.isSerialization
  | store cause => cause.isSerialization
  | validation | ownership _ => false

/-! ### Manifests -/

namespace Manifest

theorem upholds_applyOne {m : Manifest} (conforms : m.record.conforms m.kind = .ok ()) :
    (applyOne m).Upholds StoreError.isSerialization fun _ => True :=
  Attempt.upholds_bind (Attempt.upholds_outcome trivial) fun _ _ =>
    Attempt.upholds_bind (Client.upholds_apply conforms) fun _ _ => Attempt.upholds_pure trivial

theorem upholds_applyEach {ms : List Manifest}
    (conform : ∀ m ∈ ms, m.record.conforms m.kind = .ok ()) :
    (applyEach ms).Upholds StoreError.isSerialization fun _ => True := by
  induction ms with
  | nil => exact Attempt.upholds_pure trivial
  | cons m rest ih =>
    obtain ⟨first, others⟩ := List.forall_mem_cons.mp conform
    refine Attempt.upholds_bind (upholds_applyOne first) fun _ _ => ?_
    exact Attempt.upholds_bind (ih others) fun _ _ => Attempt.upholds_pure trivial

/-- Declared manifests may be applied. -/
theorem Declared.upholds_applyAll {ms : List Manifest} (declared : Declared ms) :
    (applyAll ms).Upholds StoreError.isSerialization fun _ => True :=
  upholds_applyEach fun _ mem => declared.conforms ((List.mergeSort_perm ..).mem_iff.mp mem)

end Manifest

/-! ### Invocations -/

theorem ToolContext.ends_of (f : FunctionRecord) (p : PackageRecord) :
    Ends ResolveError.isSerialization (fun _ => True) (ToolContext.of f p) := by
  unfold ToolContext.of
  split
  · split
    · trivial
    · rfl
  · rfl

theorem ToolReference.upholds_resolve (tool : ToolReference) (home : String) :
    (tool.resolve home).Upholds ResolveError.isSerialization fun _ => True := by
  refine Attempt.upholds_bind
    (Attempt.upholds_mapError (Client.upholds_get _) fun _ clean => clean) fun f _ => ?_
  refine Attempt.upholds_bind
    (Attempt.upholds_mapError (Client.upholds_get _) fun _ clean => clean) fun p _ => ?_
  exact Attempt.upholds_ofExcept (ToolContext.ends_of f p)

namespace AgentContext

theorem upholds_resolveTools (home : String) (tools : List ToolReference)
    (found : Dictionary String ToolContext) :
    (resolveTools home tools found).Upholds ReconcileError.isSerialization fun _ => True := by
  induction tools generalizing found with
  | nil => exact Attempt.upholds_pure trivial
  | cons tool rest ih =>
    refine Attempt.upholds_bind
      (Attempt.upholds_mapError (tool.upholds_resolve home) fun _ clean => clean)
      fun context _ => ?_
    exact ih _

theorem upholds_compose (agent : AgentRecord) :
    (compose agent).Upholds ReconcileError.isSerialization fun _ => True :=
  Attempt.upholds_bind (upholds_resolveTools ..) fun _ _ => Attempt.upholds_pure trivial

end AgentContext

theorem Documents.upholds_compose (broker : BrokerSettings) (agent : AgentRecord) :
    (Documents.compose broker agent).Upholds ReconcileError.isSerialization fun _ => True :=
  Attempt.upholds_bind
    (Attempt.upholds_mapError (AgentContext.upholds_compose agent) fun _ clean => clean)
    fun _ _ => Attempt.upholds_pure trivial

namespace Reconciler

theorem upholds_control (agent : AgentRecord) (function : FunctionRecord) :
    (control agent function).Upholds ReconcileError.isSerialization fun _ => True := by
  refine Attempt.upholds_bind (P := fun _ => True) (Attempt.upholds_ofExcept ?_)
    fun _ _ => Attempt.upholds_pure trivial
  cases Metadata.setController .agent agent.metadata function.metadata with
  | ok metadata => trivial
  | error e => rfl

/-- A typed call of which only the success is told may be made. -/
theorem upholds_store {α β : Type} {a : Attempt StoreError α} (b : β)
    (h : a.Upholds StoreError.isSerialization fun _ => True) :
    (a.mapError ReconcileError.store >>= fun _ => pure b : Attempt ReconcileError β).Upholds
      ReconcileError.isSerialization fun _ => True :=
  Attempt.upholds_bind (Attempt.upholds_mapError h fun _ clean => clean)
    fun _ _ => Attempt.upholds_pure trivial

theorem upholds_syncFunction (agent : AgentRecord) (intended : FunctionRecord) (key : RecordKey) :
    (syncFunction agent intended key).Upholds ReconcileError.isSerialization fun _ => True := by
  refine Attempt.upholds_bind (Attempt.upholds_result (Client.upholds_get key)) fun o ended => ?_
  cases o with
  | ok stored =>
    refine Attempt.upholds_bind (upholds_control agent stored) fun owned _ => ?_
    split
    · exact upholds_store _ (Client.upholds_update _)
    · exact Attempt.upholds_pure trivial
  | error e =>
    simp only
    split
    · exact upholds_store _ (Client.upholds_create intended)
    · exact Attempt.upholds_throw ended

theorem upholds_syncStatus (agent : AgentRecord) (key : RecordKey) :
    (syncStatus agent key).Upholds ReconcileError.isSerialization fun _ => True := by
  refine Attempt.upholds_bind
    (Attempt.upholds_mapError (Client.upholds_get key) fun _ clean => clean) fun observed _ => ?_
  simp only
  split
  · exact Attempt.upholds_pure trivial
  · exact upholds_store _ (Client.upholds_updateStatus _)

/-- An invocation writes what can be read, and fails to read nothing. -/
theorem upholds_reconcile (broker : BrokerSettings) (key : RecordKey) :
    (reconcile broker key).Upholds ReconcileError.isSerialization fun _ => True := by
  refine Attempt.upholds_bind (Attempt.upholds_result (Client.upholds_get key)) fun o ended => ?_
  cases o with
  | error e =>
    simp only
    split
    · exact Attempt.upholds_pure trivial
    · exact Attempt.upholds_throw ended
  | ok agent =>
    refine Attempt.upholds_bind (P := fun _ => True) (Attempt.upholds_ofExcept ?_) fun _ _ => ?_
    · unfold AgentSpec.validate
      split
      · split
        · rfl
        · trivial
      · trivial
    · refine Attempt.upholds_bind (Documents.upholds_compose broker agent) fun config _ => ?_
      refine Attempt.upholds_bind (upholds_control agent _) fun intended _ => ?_
      refine Attempt.upholds_bind (upholds_syncFunction agent intended key) fun action _ => ?_
      refine Attempt.upholds_bind (upholds_syncStatus agent key) fun updated _ => ?_
      exact Attempt.upholds_pure trivial

end Reconciler

/-! ### Passes -/

namespace Pass

theorem upholds_agentKeys : agentKeys.Upholds StoreError.isSerialization fun _ => True :=
  Attempt.upholds_bind (Client.upholds_list none) fun _ _ => Attempt.upholds_pure trivial

/-- No invocation of a pass fails to read anything. -/
def Clean (results : List (RecordKey × InvocationResult)) : Prop :=
  ∀ r ∈ results, Ends ReconcileError.isSerialization (fun _ => True) r.2

theorem upholds_reconcileEach (broker : BrokerSettings) (keys : List RecordKey) :
    (reconcileEach broker keys).Upholds StoreError.isSerialization Clean := by
  induction keys with
  | nil => exact Attempt.upholds_pure nofun
  | cons key rest ih =>
    refine Attempt.upholds_bind
      (Attempt.upholds_result (Reconciler.upholds_reconcile broker key)) fun result ended => ?_
    refine Attempt.upholds_bind ih fun results clean => ?_
    exact Attempt.upholds_pure (List.forall_mem_cons.mpr ⟨ended, clean⟩)

theorem upholds_reconcileAll (broker : BrokerSettings) :
    (reconcileAll broker).Upholds StoreError.isSerialization Clean :=
  Attempt.upholds_bind upholds_agentKeys fun keys _ => upholds_reconcileEach broker keys

end Pass

/-! ### Operations -/

/-- A typed record of one of the kinds. -/
inductive TypedRecord where
  | agent (r : AgentRecord)
  | function (r : FunctionRecord)
  | package (r : PackageRecord)

/-- What is done to a store through manifests, typed calls and invocations. -/
inductive Operation where
  | apply (ms : List Manifest) (declared : Manifest.Declared ms)
  | create (r : TypedRecord)
  | update (r : TypedRecord)
  | updateStatus (r : TypedRecord)
  | delete (kind : Kind) (key : RecordKey)
  | get (kind : Kind) (key : RecordKey)
  | list (kind : Kind) («namespace» : Option String)
  | reconcile (broker : BrokerSettings) (key : RecordKey)
  | reconcileAll (broker : BrokerSettings)
  /-- The keys of all agents are listed for the work queue. -/
  | enqueueAll

namespace Operation

/-- The failure that an attempt on a store ends with, if any. -/
def failures {α : Type} (a : Attempt StoreError α) : Routine (List ReconcileError) :=
  a.run.bind fun
    | .ok _ => .done []
    | .error e => .done [.store e]

/-- The calls of an operation; it ends with the failures that it tells. -/
def routine : Operation → Routine (List ReconcileError)
  | apply ms _ => failures (Manifest.applyAll ms)
  | create (.agent r) => failures (Client.create r)
  | create (.function r) => failures (Client.create r)
  | create (.package r) => failures (Client.create r)
  | update (.agent r) => failures (Client.update r)
  | update (.function r) => failures (Client.update r)
  | update (.package r) => failures (Client.update r)
  | updateStatus (.agent r) => failures (Client.updateStatus r)
  | updateStatus (.function r) => failures (Client.updateStatus r)
  | updateStatus (.package r) => failures (Client.updateStatus r)
  | delete .agent key => failures (Client.delete AgentSpec key)
  | delete .function key => failures (Client.delete FunctionSpec key)
  | delete .package key => failures (Client.delete PackageSpec key)
  | get .agent key => failures (Client.get AgentSpec key)
  | get .function key => failures (Client.get FunctionSpec key)
  | get .package key => failures (Client.get PackageSpec key)
  | list .agent ns => failures (Client.list AgentSpec ns)
  | list .function ns => failures (Client.list FunctionSpec ns)
  | list .package ns => failures (Client.list PackageSpec ns)
  | reconcile broker key => (Reconciler.reconcile broker key).run.bind fun
    | .ok _ => .done []
    | .error e => .done [e]
  | reconcileAll broker => (Pass.reconcileAll broker).run.bind fun
    | .ok results => .done (results.filterMap fun r =>
        match r.2 with
        | .ok _ => none
        | .error e => some e)
    | .error e => .done [.store e]
  | enqueueAll => failures Pass.agentKeys

/-- None of the failures is one of reading. -/
def Clean (errors : List ReconcileError) : Prop := ∀ e ∈ errors, e.isSerialization = false

theorem upholds_failures {α : Type} {a : Attempt StoreError α} {P : α → Prop}
    (h : a.Upholds StoreError.isSerialization P) : (failures a).Upholds Clean := by
  refine Routine.Upholds.bind h fun o ended => ?_
  cases o with
  | ok x => exact nofun
  | error e => exact List.forall_mem_singleton.mpr ended

/-- Every operation writes what can be read, and fails to read nothing. -/
theorem upholds_routine (o : Operation) : o.routine.Upholds Clean := by
  cases o with
  | apply ms declared => exact upholds_failures declared.upholds_applyAll
  | create r => cases r <;> exact upholds_failures (Client.upholds_create _)
  | update r => cases r <;> exact upholds_failures (Client.upholds_update _)
  | updateStatus r => cases r <;> exact upholds_failures (Client.upholds_updateStatus _)
  | delete kind key => cases kind <;> exact upholds_failures (Client.upholds_delete _)
  | get kind key => cases kind <;> exact upholds_failures (Client.upholds_get _)
  | list kind ns => cases kind <;> exact upholds_failures (Client.upholds_list _)
  | reconcile broker key =>
    refine Routine.Upholds.bind (Reconciler.upholds_reconcile broker key) fun o ended => ?_
    cases o with
    | ok x => exact nofun
    | error e => exact List.forall_mem_singleton.mpr ended
  | reconcileAll broker =>
    refine Routine.Upholds.bind (Pass.upholds_reconcileAll broker) fun o ended => ?_
    cases o with
    | ok results =>
      intro e mem
      obtain ⟨⟨key, result⟩, isResult, failed⟩ := List.mem_filterMap.mp mem
      have clean := ended _ isResult
      cases result with
      | ok x => cases failed
      | error e' =>
        obtain rfl := Option.some.inj failed
        exact clean
    | error e => exact List.forall_mem_singleton.mpr ended
  | enqueueAll => exact upholds_failures Pass.upholds_agentKeys

/-- In whatever order operations on a store that was empty make their calls: every record that is
stored is of the form of its kind, and no operation ends with a failure to read a record. -/
theorem readable_of_reaches {ι : Type} [DecidableEq ι] (operations : ι → Operation)
    (uids : UidSupply) {p : Pool ι (List ReconcileError) (Store RecordId)}
    (reached : Pool.Reaches Store.respond ⟨fun i => (operations i).routine, .empty uids⟩ p) :
    p.world.Readable ∧ ∀ i errors, p.result? i = some errors →
      ∀ e ∈ errors, e.isSerialization = false := by
  have refusals : ∀ key e, Address.refusal? RecordId key = some e → e.isSerialization = false := by
    intro key e refused
    cases refused
  obtain ⟨readable, upholds⟩ := reached.upheld (P := fun _ => Clean) refusals
    (Store.readable_empty uids) fun i => (operations i).upholds_routine
  refine ⟨readable, fun i errors ended => ?_⟩
  have clean := upholds i
  rw [Pool.result?_eq_some_iff.mp ended] at clean
  exact clean

/-- A text that declares an agent with a tool that is declared nowhere. -/
def agentWithTool : String :=
  "kind: Agent\nmetadata: \x7bname: a\x7d\nspec: \x7btools: [\x7bname: t\x7d]\x7d\n"

/-- The manifests are applied, and the agent of the text is invoked beside. -/
def appliedAndInvoked {ms : List Manifest} (declared : Manifest.Declared ms) : Fin 2 → Operation
  | 0 => apply ms declared
  | 1 => reconcile {} ⟨"default", "a"⟩

/-- An invocation that fails to find a tool does not fail to read one. -/
theorem readable_of_missing_tool : ∃ (ms : List Manifest) (declared : Manifest.Declared ms)
    (p : Pool (Fin 2) (List ReconcileError) (Store RecordId)) (e : ReconcileError),
    Manifest.ofText "a.yaml" agentWithTool = .ok ms ∧
      Pool.Reaches Store.respond
        ⟨fun i => (appliedAndInvoked declared i).routine, Manifest.noRecords⟩ p ∧
      p.result? 0 = some [] ∧ p.result? 1 = some [e] ∧
      (p.world.find? .agent ⟨"default", "a"⟩).isSome ∧
      p.world.Readable ∧ e.isSerialization = false := by
  have facts : (Manifest.ofText "a.yaml" agentWithTool).toOption.map (fun ms =>
      let first := (failures (Manifest.applyEach ms)).run Store.respond Manifest.noRecords
      let next := (reconcile {} ⟨"default", "a"⟩).routine.run Store.respond first.2
      (decide (ms.Pairwise fun a b => Manifest.rank a.kind ≤ Manifest.rank b.kind), first.1,
        next.1.length, (next.2.find? .agent ⟨"default", "a"⟩).isSome)) =
      some (true, [], 1, true) := by
    decide +kernel
  obtain ⟨ms, read, facts⟩ := Outcome.exists_of_toOption_map facts
  simp only [Prod.mk.injEq, decide_eq_true_eq, List.length_eq_one_iff] at facts
  obtain ⟨ordered, applied, ⟨e, failed⟩, stored⟩ := facts
  rw [← Manifest.applyAll_of_ordered ordered] at applied failed stored
  let declared := Manifest.Declared.ofText read
  obtain ⟨p, reached, first, second, world⟩ := Pool.reaches_run_run Store.respond
    ⟨fun i => (appliedAndInvoked declared i).routine, Manifest.noRecords⟩ (i := 0) (j := 1)
    (by decide)
  have first : p.result? 0 = some [] := first.trans (congrArg some applied)
  have second : p.result? 1 = some [e] := second.trans (congrArg some failed)
  obtain ⟨readable, clean⟩ :=
    readable_of_reaches (appliedAndInvoked declared) ⟨fun _ => "u", 0⟩ reached
  exact ⟨ms, declared, p, e, read, reached, first, second, world ▸ stored, readable,
    clean 1 [e] second e List.mem_cons_self⟩

end Operation

end ControlPlane
