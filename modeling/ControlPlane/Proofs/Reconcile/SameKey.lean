import ControlPlane.Proofs.Reconcile.Failure
import ControlPlane.Proofs.Reconcile.Idempotence
import ControlPlane.Proofs.Store.Pool
import ControlPlane.Proofs.Store.Race

/-!
Invocations for one key that run at the same time. With nobody else at work they race for the writes
of one of them run alone, at most one of the function and then at most one of the agent's status
(`Reconciler.Rehearsed`). Whoever comes late with a write gets a conflict, whoever reads late finds
nothing to do, and one that succeeds leaves the store that a single invocation would have left
(`Reconciler.crowd_safe`).
-/

namespace ControlPlane

variable {κ : Type} [Address κ]

/-- A record with at most one reference to a controller is not contested. -/
theorem Metadata.not_contested_of_single {kind : Kind} {owner owned : Metadata}
    (single : (owned.ownerReferences.filter (·.controller)).length ≤ 1) :
    ¬ Contested kind owner owned := by
  rintro ⟨⟨held, found, named, -⟩, r, mem, controls, unnamed⟩
  have heldMem : held ∈ owned.ownerReferences.filter (·.controller) :=
    List.mem_filter.mpr ⟨List.mem_of_find?_eq_some found, List.find?_some found⟩
  have otherMem : r ∈ owned.ownerReferences.filter (·.controller) :=
    List.mem_filter.mpr ⟨mem, controls⟩
  obtain ⟨i, inHeld, heldAt⟩ := List.mem_iff_getElem.mp heldMem
  obtain ⟨j, inOther, otherAt⟩ := List.mem_iff_getElem.mp otherMem
  have sameIndex : i = j := by omega
  subst j
  rw [← otherAt, heldAt, named] at unnamed
  cases unnamed

namespace Reconciler

variable {broker : BrokerSettings} {key : RecordKey} {agent agent' : AgentRecord}
  {config : Documents} {f : FunctionRecord} {s : Store κ}

/-! ### The writes of an invocation run alone -/

/-- The write that a verdict calls for, if any. -/
def Verdict.writes (intended : FunctionRecord) : Verdict → List Call
  | revised f => [.update .function f.untyped]
  | missing => [.create .function intended.untyped]
  | _ => []

/-- The write that mirrors the status of a function to its agent, if the agent has another one. -/
def statusWrites (agent : AgentRecord) (observed : FunctionRecord) : List Call :=
  if agent.status = AgentStatus.ofFunction observed.status then []
  else [.updateStatus .agent (mirrored agent observed).untyped]

/-- The write of the function that an invocation makes with nobody else at work, if any. -/
def functionWrites (agent : AgentRecord) (config : Documents) (key : RecordKey) (s : Store κ) :
    List Call :=
  (verdict agent (intended agent config) (s.fetch FunctionSpec key)).writes (intended agent config)

/-- The writes that an invocation makes with nobody else at work. -/
def writesAlone (agent : AgentRecord) (config : Documents) (key : RecordKey) (s : Store κ)
    (observed : FunctionRecord) : List Call :=
  functionWrites agent config key s ++ statusWrites agent observed

theorem isOk_of_told {σ τ ρ : Type} [RecordShape σ τ] {a b : ρ} {o : Except StoreError Record}
    (h : told (σ := σ) a o = .ok b) : o.isOk = true := by
  cases o with
  | ok r => rfl
  | error e => cases h

theorem Verdict.mem_writes {v : Verdict} {i : FunctionRecord} {c : Call} (mem : c ∈ v.writes i) :
    c.kind = .function ∧ c.isWrite = true ∧ c.method ≠ .delete := by
  cases v with
  | refused e => cases mem
  | kept => cases mem
  | revised f =>
    obtain rfl := List.mem_singleton.mp mem
    exact ⟨rfl, rfl, by rintro ⟨⟩⟩
  | missing =>
    obtain rfl := List.mem_singleton.mp mem
    exact ⟨rfl, rfl, by rintro ⟨⟩⟩

theorem mem_statusWrites {c : Call} (mem : c ∈ statusWrites agent f) :
    c.kind = .agent ∧ c.isWrite = true ∧ c.method ≠ .delete := by
  rw [statusWrites] at mem
  split at mem
  · cases mem
  · obtain rfl := List.mem_singleton.mp mem
    exact ⟨rfl, rfl, by rintro ⟨⟩⟩

/-- The write of a function leaves the agents and the packages alone. -/
theorem find?_after_functionWrites {calls : List Call}
    (fewer : calls <+: functionWrites agent config key s) {kind : Kind} (other : kind ≠ .function)
    (k : RecordKey) : (s.after calls).find? kind k = s.find? kind k := by
  refine Store.find?_after_of_kind (fun c mem => ?_) (fun c mem => ?_) k
  · exact (Verdict.mem_writes (fewer.subset mem)).2.2
  · rw [(Verdict.mem_writes (fewer.subset mem)).1]
    exact other

/-- The write of a status leaves the functions and the packages alone. -/
theorem find?_after_statusWrites {calls : List Call} (fewer : calls <+: statusWrites agent f)
    {kind : Kind} (other : kind ≠ .agent) (k : RecordKey) (t : Store κ) :
    (t.after calls).find? kind k = t.find? kind k := by
  refine Store.find?_after_of_kind (fun c mem => ?_) (fun c mem => ?_) k
  · exact (mem_statusWrites (fewer.subset mem)).2.2
  · rw [(mem_statusWrites (fewer.subset mem)).1]
    exact other

/-- The writes of an invocation are made up to three points: none, that of the function, all. -/
theorem writes_cases {calls : List Call} (fewer : calls <+: writesAlone agent config key s f) :
    calls = [] ∨ calls = functionWrites agent config key s ∨
      calls = writesAlone agent config key s f := by
  have atMostOne : (functionWrites agent config key s).length ≤ 1 := by
    rw [functionWrites]
    cases verdict agent (intended agent config) (s.fetch FunctionSpec key) <;>
      simp [Verdict.writes]
  have atMostOneMore : (statusWrites agent f).length ≤ 1 := by
    rw [statusWrites]
    split <;> simp
  have inOrder : functionWrites agent config key s <+: writesAlone agent config key s f :=
    List.prefix_append ..
  have total : (writesAlone agent config key s f).length =
      (functionWrites agent config key s).length + (statusWrites agent f).length :=
    List.length_append
  by_cases none : calls.length = 0
  · exact .inl (List.length_eq_zero_iff.mp none)
  · by_cases few : calls.length ≤ (functionWrites agent config key s).length
    · have within := List.prefix_of_prefix_length_le fewer inOrder few
      exact .inr (.inl (within.eq_of_length_le (by omega)))
    · exact .inr (.inr (fewer.eq_of_length_le (by omega)))

theorem store_carryOut (v : Verdict) (i : FunctionRecord) (s : Store κ) :
    ((v.carryOut i).runOn s).2.store = s.after (v.writes i) := by
  cases v <;> rfl

theorem store_mirror (agent : AgentRecord) (f : FunctionRecord) (s : Store κ) :
    ((mirror agent (.ok f)).runOn s).2.store = s.after (statusWrites agent f) := by
  simp only [mirror, statusWrites]
  split <;> rfl

/-- An invocation that succeeds with nobody else at work: what it reads and makes, and the writes
that it makes in turn. -/
structure Rehearsed (broker : BrokerSettings) (key : RecordKey) (s : Store κ) (agent : AgentRecord)
    (config : Documents) (f : FunctionRecord) (agent' : AgentRecord) : Prop where
  home : s.fetch AgentSpec key = .ok agent
  valid : agent.spec.validate = .ok ()
  composed : (Documents.compose broker agent).endOn s = .ok config
  acted : ∃ action, (((verdict agent (intended agent config) (s.fetch FunctionSpec key)).carryOut
    (intended agent config)).runOn s).1 = .ok action
  told : ∃ b, ((mirror agent (.ok f)).runOn (s.after (functionWrites agent config key s))).1 = .ok b
  settled : Settled agent config key s
    (s.after (writesAlone agent config key s f)) f agent'

/-- After the documents were composed, an invocation that succeeds makes its writes in turn. -/
theorem conclude_writes {action : FunctionAction} {b : Bool} {w : Written κ}
    (run : (conclude agent key config).runOn s = (.ok (.synced action b), w))
    (read : w.store.fetch FunctionSpec key = .ok f) :
    (∃ action, (((verdict agent (intended agent config) (s.fetch FunctionSpec key)).carryOut
        (intended agent config)).runOn s).1 = .ok action) ∧
      (∃ b, ((mirror agent (.ok f)).runOn (s.after (functionWrites agent config key s))).1 =
        .ok b) ∧
      w.store = s.after (writesAlone agent config key s f) := by
  rw [conclude, Routine.runOn_bind, runOn_syncFunction] at run
  cases acted : (((verdict agent (intended agent config) (s.fetch FunctionSpec key)).carryOut
      (intended agent config)).runOn s).1 with
  | error e =>
    rw [acted] at run
    cases run
  | ok first =>
    rw [acted, store_carryOut, Routine.runOn_bind, runOn_syncStatus] at run
    rw [← functionWrites] at run
    cases reread : (s.after (functionWrites agent config key s)).fetch FunctionSpec key with
    | error e =>
      rw [reread] at run
      cases run
    | ok f' =>
      rw [reread] at run
      obtain ⟨told, rfl⟩ := Prod.mk.inj run
      obtain ⟨b', told, -⟩ := Outcome.map_eq_ok_iff.mp told
      have store := store_mirror agent f' (s.after (functionWrites agent config key s))
      -- The status is written after the function was read again, and does not change it.
      have same : f' = f := by
        have kept : ((s.after (functionWrites agent config key s)).after
            (statusWrites agent f')).find? .function key =
              (s.after (functionWrites agent config key s)).find? .function key :=
          find?_after_statusWrites (List.prefix_refl _) (by decide) key _
        rw [← store] at kept
        have unchanged := (Store.fetch_congr kept).trans reread
        exact Except.ok.inj (unchanged.symm.trans read)
      subst same
      exact ⟨⟨first, rfl⟩, ⟨b', told⟩, store.trans (Store.after_append ..).symm⟩

/-- An invocation that succeeds makes its writes in turn. -/
theorem rehearsed_of_synced {action : FunctionAction} {told : Bool} {w : Written κ}
    (run : (reconcile broker key).run.runOn s = (.ok (.synced action told), w)) :
    ∃ agent config f agent', Rehearsed broker key s agent config f agent' ∧
      w.store = s.after (writesAlone agent config key s f) := by
  cases home : s.fetch AgentSpec key with
  | error e =>
    rw [(runOn_reconcile_of_error broker home).2] at run
    split at run <;> cases run
  | ok agent =>
    rw [(runOn_reconcile_of_ok broker home).2, runOn_sync] at run
    cases valid : agent.spec.validate with
    | error e =>
      rw [valid] at run
      cases run
    | ok u =>
      cases composed : (Documents.compose broker agent).endOn s with
      | error e =>
        rw [valid, composed] at run
        cases run
      | ok config =>
        rw [valid, composed] at run
        simp only at run
        rcases runOn_conclude_cases home (Documents.plain_of_compose composed) with
            ⟨e, -, failed⟩ | ⟨action', told', w', f, agent', run', settled, -⟩
        · rw [failed] at run
          cases run
        · obtain ⟨-, rfl⟩ := Prod.mk.inj (run'.symm.trans run)
          obtain ⟨acted, told, store⟩ := conclude_writes run settled.function
          exact ⟨agent, config, f, agent', ⟨home, valid, composed, acted, told, store ▸ settled⟩,
            store⟩

namespace Rehearsed

variable (h : Rehearsed broker key s agent config f agent')
include h

/-- The writes of an invocation are a script. -/
theorem script : Script s (writesAlone agent config key s f) := by
  have first : Script s (functionWrites agent config key s) := by
    obtain ⟨action, acted⟩ := h.acted
    rw [functionWrites]
    cases judged : verdict agent (intended agent config) (s.fetch FunctionSpec key) with
    | refused e => exact .nil s
    | kept => exact .nil s
    | revised f =>
      rw [judged] at acted
      exact (Script.nil s).snoc rfl (by rintro ⟨⟩) nofun (.inl rfl) (isOk_of_told acted)
    | missing =>
      rw [judged] at acted
      exact (Script.nil s).snoc rfl (by rintro ⟨⟩) nofun (.inl rfl) (isOk_of_told acted)
  obtain ⟨b, told⟩ := h.told
  rw [writesAlone, statusWrites]
  rw [mirror] at told
  split
  · rwa [List.append_nil]
  · rename_i differs
    rw [if_neg differs] at told
    refine first.snoc rfl (by rintro ⟨⟩) (fun d mem => ?_) (.inr (by rintro ⟨⟩))
      (isOk_of_told told)
    rw [(Verdict.mem_writes mem).1]
    show Kind.function ≠ Kind.agent
    decide

/-- Functions at other keys are left alone. -/
theorem find?_function {calls : List Call} (fewer : calls <+: writesAlone agent config key s f)
    {k : RecordKey} (elsewhere : Address.of (κ := κ) .function k ≠ Address.of .function key) :
    (s.after calls).find? .function k = s.find? .function k := by
  have atEnd := h.settled.others .function k elsewhere (Address.function_ne_agent k key)
  rcases writes_cases fewer with rfl | rfl | rfl
  · rfl
  · rw [writesAlone, Store.after_append] at atEnd
    rwa [find?_after_statusWrites (List.prefix_refl _) (by decide)] at atEnd
  · exact atEnd

/-- Packages are left alone. -/
theorem find?_package {calls : List Call} (fewer : calls <+: writesAlone agent config key s f)
    (k : RecordKey) : (s.after calls).find? .package k = s.find? .package k := by
  have atEnd := h.settled.others .package k (Address.of_ne_of_kind (by decide) k key)
    (Address.of_ne_of_kind (by decide) k key)
  rcases writes_cases fewer with rfl | rfl | rfl
  · rfl
  · exact find?_after_functionWrites (List.prefix_refl _) (by decide) k
  · exact atEnd

/-- The tools of an agent that does not name its own function are found as they were. -/
theorem toolsAlike (apart : ∀ tool ∈ agent.spec.tools,
      Address.of (κ := κ) .function (tool.key agent.metadata.namespace) ≠ Address.of .function key)
    {calls : List Call} (fewer : calls <+: writesAlone agent config key s f) {t : Store κ}
    (same : t.records = (s.after calls).records) : agent.ToolsAlike s t := by
  refine fun tool mem => ⟨?_, fun _ _ => ?_⟩
  · exact (Store.find?_of_records same ..).trans (h.find?_function fewer (apart tool mem))
  · exact (Store.find?_of_records same ..).trans (h.find?_package fewer _)

/-- The agent is read as it was before the last write, and as it was left after it. -/
theorem fetch_agent {calls : List Call} (fewer : calls <+: writesAlone agent config key s f) :
    (s.after calls).fetch AgentSpec key = .ok agent ∨
      calls = writesAlone agent config key s f ∧
        (s.after calls).fetch AgentSpec key = .ok agent' := by
  rcases writes_cases fewer with rfl | rfl | rfl
  · exact .inl h.home
  · left
    rw [← h.home]
    exact Store.fetch_congr (find?_after_functionWrites (List.prefix_refl _) (by decide) key)
  · exact .inr ⟨rfl, h.settled.reread⟩

/-- The function is read as it was left once it was written. -/
theorem fetch_function {calls : List Call} (fewer : calls <+: writesAlone agent config key s f)
    (written : functionWrites agent config key s <+: calls) :
    (s.after calls).fetch FunctionSpec key = .ok f := by
  have after : (s.after (functionWrites agent config key s)).fetch FunctionSpec key = .ok f := by
    rw [← h.settled.function, writesAlone, Store.after_append]
    exact (Store.fetch_congr (find?_after_statusWrites (List.prefix_refl _) (by decide) key _)).symm
  rcases writes_cases fewer with rfl | rfl | rfl
  · rw [List.prefix_nil.mp written] at after
    exact after
  · exact after
  · exact h.settled.function

/-- The function that was written is kept. -/
theorem kept (uncontested : ∀ stored, s.fetch FunctionSpec key = .ok stored →
      ¬ Metadata.Contested .agent agent.metadata stored.metadata) :
    verdict agent (intended agent config) (.ok f) = .kept := by
  have plain := Documents.plain_of_compose h.composed
  have again := h.settled.kept plain fun contested => by
    obtain ⟨stored, read, contested⟩ := contested_before_iff.mp contested
    exact uncontested stored read contested
  rw [h.settled.wants.intended_eq] at again
  simp only [verdict, h.settled.wants.setController_eq] at again ⊢
  exact again

/-- The documents are composed as at the start, however far the writes are made. -/
theorem composed_after
    (apart : ∀ tool ∈ agent.spec.tools, Address.of (κ := κ) .function
      (tool.key agent.metadata.namespace) ≠ Address.of .function key)
    {calls : List Call} (fewer : calls <+: writesAlone agent config key s f) :
    (Documents.compose broker agent).endOn (s.after calls) = .ok config := by
  rw [← h.composed]
  exact (Documents.compose_steady broker agent s).runOn_eq (h.toolsAlike apart fewer rfl)

/-- Once all is written there is nothing left to do. -/
theorem atRest
    (apart : ∀ tool ∈ agent.spec.tools, Address.of (κ := κ) .function
      (tool.key agent.metadata.namespace) ≠ Address.of .function key)
    (uncontested : ∀ stored, s.fetch FunctionSpec key = .ok stored →
      ¬ Metadata.Contested .agent agent.metadata stored.metadata) :
    AtRest broker agent' key (s.after (writesAlone agent config key s f)) := by
  refine (h.settled.atRest_iff h.valid h.composed).mpr ⟨?_, fun contested => ?_⟩
  · rw [h.composed, h.composed_after apart (List.prefix_refl _)]
  · obtain ⟨stored, read, contested⟩ := contested_before_iff.mp contested
    exact uncontested stored read contested

end Rehearsed

/-! ### The invocations of a crowd -/

/-- A part of an invocation succeeded, and then the writes up to some point are made; or it failed
with a conflict. -/
def DoneOrConflict {ρ : Type} (s : Store κ) (script done : List Call) (o : Except ReconcileError ρ)
    (w : Store κ × List Call) : Prop :=
  (∃ a, o = .ok a) ∧ Underway s script done w ∨ ∃ e, o = .error e ∧ e.isConflict = true

variable {w : Store κ × List Call}

/-- A write of the script, told as the store answers it. -/
theorem ensures_write {ρ : Type} {script earlier later : List Call} {c : Call}
    {g : c.Outcome → Except ReconcileError ρ} {a : ρ} (valid : Script s script)
    (split : script = earlier ++ c :: later) (reached : Underway s script earlier w)
    (succeeds : g ((s.after earlier).answer c).1 = .ok a)
    (fails : ∀ e, g (.error e) = .error (.store e)) :
    (Routine.call c fun o => .done (g o)).Ensures (racing s script) (racing s script).drift
      (DoneOrConflict s script (earlier ++ [c])) w := by
  refine (valid.ensures_call split reached g).mono fun o v => ?_
  rintro (⟨rfl, made⟩ | ⟨e, conflict, rfl⟩)
  · exact .inl ⟨⟨a, succeeds⟩, made⟩
  · exact .inr ⟨.store e, fails e, conflict⟩

namespace Rehearsed

variable (h : Rehearsed broker key s agent config f agent')
include h

/-- Whoever judges the function finds it as it was at the start, or as it should be. -/
theorem syncFunction_ensures
    (uncontested : ∀ stored, s.fetch FunctionSpec key = .ok stored →
      ¬ Metadata.Contested .agent agent.metadata stored.metadata)
    (start : Underway s (writesAlone agent config key s f) [] w) :
    (syncFunction agent (intended agent config) key).run.Ensures
      (racing s (writesAlone agent config key s f))
      (racing s (writesAlone agent config key s f)).drift
      (DoneOrConflict s (writesAlone agent config key s f) (functionWrites agent config key s))
      w := by
  rw [syncFunction_run]
  intro u hu o v answered
  obtain ⟨rfl, rfl⟩ := racing_reads (c := .get .function key) rfl answered
  have here := hu [] start
  refine ⟨(racing _ _).refl v, ?_⟩
  show ((verdict agent (intended agent config) (v.1.fetch FunctionSpec key)).carryOut _).Ensures
    _ _ _ v
  by_cases written : functionWrites agent config key s <+: v.2
  · rw [Store.fetch_of_records here.records, h.fetch_function here.toCome written, h.kept uncontested]
    intro x hx
    exact .inl ⟨⟨_, rfl⟩, hx _ { here with done := written }⟩
  · have none : v.2 = [] := by
      rcases writes_cases here.toCome with none | all | all
      · exact none
      · exact absurd (all ▸ List.prefix_refl _) written
      · exact absurd (all ▸ List.prefix_append ..) written
    have same : v.1 = s := here.untouched none
    obtain ⟨action, acted⟩ := h.acted
    have valid := h.script
    rw [writesAlone] at valid here ⊢
    rw [functionWrites] at written valid here ⊢
    rw [same]
    cases judged : verdict agent (intended agent config) (s.fetch FunctionSpec key) with
    | refused e =>
      rw [judged] at acted
      cases acted
    | kept =>
      rw [judged] at written
      exact absurd List.nil_prefix written
    | revised f' =>
      rw [judged] at valid here acted
      exact ensures_write valid rfl here acted fun e => rfl
    | missing =>
      rw [judged] at valid here acted
      exact ensures_write valid rfl here acted fun e => rfl

/-- Whoever mirrors the status finds the function as it should be. -/
theorem syncStatus_ensures (start : Underway s (writesAlone agent config key s f)
      (functionWrites agent config key s) w) :
    (syncStatus agent key).run.Ensures (racing s (writesAlone agent config key s f))
      (racing s (writesAlone agent config key s f)).drift
      (DoneOrConflict s (writesAlone agent config key s f) (writesAlone agent config key s f))
      w := by
  rw [syncStatus_run]
  intro u hu o v answered
  obtain ⟨rfl, rfl⟩ := racing_reads (c := .get .function key) rfl answered
  have here := hu _ start
  refine ⟨(racing _ _).refl v, ?_⟩
  show (mirror agent (v.1.fetch FunctionSpec key)).Ensures _ _ _ v
  obtain ⟨b, told⟩ := h.told
  have valid := h.script
  rw [Store.fetch_of_records here.records, h.fetch_function here.toCome here.done]
  rw [mirror] at told ⊢
  rw [writesAlone] at valid here ⊢
  split
  · rename_i same
    rw [statusWrites, if_pos same, List.append_nil] at here ⊢
    intro x hx
    exact .inl ⟨⟨_, rfl⟩, hx _ here⟩
  · rename_i differs
    rw [if_neg differs] at told
    rw [statusWrites, if_neg differs] at valid here ⊢
    exact ensures_write valid rfl here told fun e => rfl

/-- An invocation that read the agent before its status was written. -/
theorem sync_ensures
    (apart : ∀ tool ∈ agent.spec.tools, Address.of (κ := κ) .function
      (tool.key agent.metadata.namespace) ≠ Address.of .function key)
    (uncontested : ∀ stored, s.fetch FunctionSpec key = .ok stored →
      ¬ Metadata.Contested .agent agent.metadata stored.metadata)
    (start : Underway s (writesAlone agent config key s f) [] w) :
    (sync broker key agent).run.Ensures (racing s (writesAlone agent config key s f))
      (racing s (writesAlone agent config key s f)).drift
      (DoneOrConflict s (writesAlone agent config key s f) (writesAlone agent config key s f))
      w := by
  rw [sync_run, h.valid]
  have composing := (Documents.compose_steady broker agent s).ensures_racing
    (fun u (hu : Underway s (writesAlone agent config key s f) [] u) =>
      h.toolsAlike apart hu.toCome hu.records) start
  refine Routine.Ensures.bind (composing.mono fun o v reached => ?_)
  obtain ⟨rfl, reached⟩ := reached
  rw [show ((Documents.compose broker agent).run.runOn s).1 = .ok config from h.composed]
  have functionFirst := h.syncFunction_ensures uncontested reached
  refine Routine.Ensures.bind (functionFirst.mono fun o v acted => ?_)
  rcases acted with ⟨⟨action, rfl⟩, made⟩ | ⟨e, rfl, conflict⟩
  · refine Routine.Ensures.bind ((h.syncStatus_ensures made).mono fun o v told => ?_)
    rcases told with ⟨⟨b, rfl⟩, all⟩ | ⟨e, rfl, conflict⟩
    · intro x hx
      exact .inl ⟨⟨_, rfl⟩, hx _ all⟩
    · intro x _
      exact .inr ⟨e, rfl, conflict⟩
  · intro x _
    exact .inr ⟨e, rfl, conflict⟩

/-- An invocation that read the agent after its status was written finds nothing to do. -/
theorem sync_ensures_of_all
    (apart : ∀ tool ∈ agent.spec.tools, Address.of (κ := κ) .function
      (tool.key agent.metadata.namespace) ≠ Address.of .function key)
    (uncontested : ∀ stored, s.fetch FunctionSpec key = .ok stored →
      ¬ Metadata.Contested .agent agent.metadata stored.metadata)
    (all : Underway s (writesAlone agent config key s f) (writesAlone agent config key s f) w) :
    (sync broker key agent').run.Ensures (racing s (writesAlone agent config key s f))
      (racing s (writesAlone agent config key s f)).drift
      (DoneOrConflict s (writesAlone agent config key s f) (writesAlone agent config key s f))
      w := by
  obtain ⟨reads, run⟩ := runOn_sync_of_atRest (h.atRest apart uncontested)
  have ended := reads.steady.ensures_racing
    (fun u (hu : Underway s (writesAlone agent config key s f) _ u) =>
      hu.records_of_all) all
  refine ended.mono fun o v done => ?_
  rw [run] at done
  exact .inl ⟨⟨_, done.1⟩, done.2⟩

/-- Every invocation beside others for its key succeeds once all is written, or has a conflict. -/
theorem reconcile_ensures
    (apart : ∀ tool ∈ agent.spec.tools, Address.of (κ := κ) .function
      (tool.key agent.metadata.namespace) ≠ Address.of .function key)
    (uncontested : ∀ stored, s.fetch FunctionSpec key = .ok stored →
      ¬ Metadata.Contested .agent agent.metadata stored.metadata)
    (start : Underway s (writesAlone agent config key s f) [] w) :
    (reconcile broker key).run.Ensures (racing s (writesAlone agent config key s f))
      (racing s (writesAlone agent config key s f)).drift
      (DoneOrConflict s (writesAlone agent config key s f) (writesAlone agent config key s f))
      w := by
  rw [reconcile_run]
  intro u hu o v answered
  obtain ⟨rfl, rfl⟩ := racing_reads (c := .get .agent key) rfl answered
  have here := hu [] start
  refine ⟨(racing _ _).refl v, ?_⟩
  have read := h.fetch_agent here.toCome
  rw [← Store.fetch_of_records here.records] at read
  rcases read with early | ⟨made, late⟩
  · have fetched : ((v.1.answer (.get .agent key)).1 >>= Client.typed :
      Except StoreError AgentRecord) = .ok agent := early
    simp only [fetched]
    exact h.sync_ensures apart uncontested here
  · have fetched : ((v.1.answer (.get .agent key)).1 >>= Client.typed :
      Except StoreError AgentRecord) = .ok agent' := late
    simp only [fetched]
    exact h.sync_ensures_of_all apart uncontested
      { here with done := made ▸ List.prefix_refl _ }

end Rehearsed

/-- Invocations for one key that share a store; the writes that succeed are noted. -/
def crowd (broker : BrokerSettings) (key : RecordKey) (n : Nat) (s : Store κ) :
    Pool (Fin n) (Except ReconcileError Reconciled) (Store κ × List Call) :=
  ⟨fun _ => (reconcile broker key).run, (s, [])⟩

/-- A stored function with at most one reference to a controller is not contested. -/
theorem not_contested_of_single
    (single : ∀ stored, s.find? .function key = some stored →
      (stored.metadata.ownerReferences.filter (·.controller)).length ≤ 1)
    (stored : FunctionRecord) (read : s.fetch FunctionSpec key = .ok stored) :
    ¬ Metadata.Contested .agent agent.metadata stored.metadata := by
  obtain ⟨r, found, typed⟩ := Store.fetch_eq_ok_iff.mp read
  apply Metadata.not_contested_of_single
  rw [← Client.metadata_of_typed typed]
  exact single r found

/-- What the invocations for a key race for: the writes of one that is run alone, if it succeeds,
and nothing if it fails. -/
theorem reconcile_races (broker : BrokerSettings)
    (apart : ∀ agent, s.fetch AgentSpec key = .ok agent → ∀ tool ∈ agent.spec.tools,
      Address.of (κ := κ) .function (tool.key agent.metadata.namespace) ≠ Address.of .function key)
    (single : ∀ stored, s.find? .function key = some stored →
      (stored.metadata.ownerReferences.filter (·.controller)).length ≤ 1) :
    ∃ script, Script s script ∧
      ((reconcile broker key).run.runOn s).2.store = s.after script ∧
      (reconcile broker key).run.Ensures (racing s script) (racing s script).drift
        (fun o w => DoneOrConflict s script script o w ∨
          script = [] ∧ o = ((reconcile broker key).run.runOn s).1) (s, []) := by
  rcases reconcile_reads_or_synced broker key s with reads | ⟨action, told, w, run⟩
  · refine ⟨[], .nil s, by rw [reads.runOn]; rfl, ?_⟩
    have ended := reads.steady.ensures_racing
      (fun u (hu : Underway s [] [] u) => hu.records_of_all) (.start s [])
    exact ended.mono fun o v done => .inr ⟨rfl, done.1⟩
  · obtain ⟨agent, config, f, agent', rehearsed, store⟩ := rehearsed_of_synced run
    refine ⟨_, rehearsed.script, by rw [run, store], ?_⟩
    exact (rehearsed.reconcile_ensures (apart agent rehearsed.home) (not_contested_of_single single)
      (.start s _)).mono fun o v done => .inl done

/-- Invocations for one key, in whatever order their calls are made: all of them end. One that
succeeds finds the records as a single invocation would have left them; one that fails has a conflict,
or it fails as a single invocation would have failed, and then nothing is written. At most one write
of the function and one of the agent succeed. -/
theorem crowd_safe (broker : BrokerSettings) (key : RecordKey) (n : Nat) (s : Store κ)
    (apart : ∀ agent, s.fetch AgentSpec key = .ok agent → ∀ tool ∈ agent.spec.tools,
      Address.of (κ := κ) .function (tool.key agent.metadata.namespace) ≠ Address.of .function key)
    (single : ∀ stored, s.find? .function key = some stored →
      (stored.metadata.ownerReferences.filter (·.controller)).length ≤ 1) :
    (crowd broker key n s).Inevitably answerNoting Pool.Finished ∧
      ∀ q, Pool.Reaches answerNoting (crowd broker key n s) q →
        (∀ i o, q.result? i = some o →
          (o.isOk = true ∧
            q.world.1.records = ((reconcile broker key).run.runOn s).2.store.records) ∨
          (∃ e, o = .error e ∧ e.isConflict = true) ∨
          (∃ e, o = .error e ∧ ((reconcile broker key).run.runOn s).1 = .error e ∧
            q.world = (s, []))) ∧
        (q.world.2.filter (·.kind = .function)).length ≤ 1 ∧
        (q.world.2.filter (·.kind = .agent)).length ≤ 1 := by
  obtain ⟨script, valid, store, ensured⟩ := reconcile_races broker apart single
  refine ⟨Pool.inevitably_finished answerNoting _, fun q reached => ?_⟩
  have answers (c : Call) (w : Store κ × List Call) :
      (racing s script).answers c w (answerNoting c w).1 (answerNoting c w).2 := rfl
  obtain ⟨drifted, ended⟩ := Pool.Reaches.ensures_alike answers (fun _ => ensured) reached
  have underway := drifted [] (.start s script)
  refine ⟨fun i o done => ?_, underway.once valid .function, underway.once valid .agent⟩
  rcases ended i o done with (⟨⟨a, rfl⟩, all⟩ | ⟨e, rfl, conflict⟩) | ⟨rfl, rfl⟩
  · exact .inl ⟨rfl, by rw [all.records_of_all, store]⟩
  · exact .inr (.inl ⟨e, rfl, conflict⟩)
  · have unchanged : q.world = (s, []) := underway.eq_of_nil
    cases alone : ((reconcile broker key).run.runOn s).1 with
    | ok r => exact .inl ⟨rfl, by rw [store, unchanged]; rfl⟩
    | error e => exact .inr (.inr ⟨e, rfl, rfl, unchanged⟩)

/-- Two invocations for a new agent that make their calls in turn. -/
def newAgentCrowd : Pool (Fin 2) (Except ReconcileError Reconciled) (Store RecordId × List Call) :=
  (crowd default ⟨"d", "a"⟩ 2 newAgent).play answerNoting (Pool.turns 4)

/-- Both find no function; the first creates it, and the second has a conflict. -/
theorem newAgentCrowd_safe :
    newAgentCrowd.result? 0 = some (.ok (.synced .created false)) ∧
      newAgentCrowd.result? 1 =
        some (.error (.store (.alreadyExists .function ⟨"d", "a"⟩))) ∧
      newAgentCrowd.world.1.records =
        ((reconcile default ⟨"d", "a"⟩).run.runOn newAgent).2.store.records ∧
      (newAgentCrowd.world.2.filter (·.kind = .function)).length ≤ 1 := by
  have first : newAgentCrowd.result? 0 = some (.ok (.synced .created false)) := by decide +kernel
  have second : newAgentCrowd.result? 1 =
      some (.error (.store (.alreadyExists .function ⟨"d", "a"⟩))) := by decide +kernel
  have noTools : (newAgent.fetch AgentSpec ⟨"d", "a"⟩).map (·.spec.tools) = .ok [] := by
    decide +kernel
  have noFunction : (newAgent.find? .function ⟨"d", "a"⟩).isNone = true := by decide +kernel
  have reached : Pool.Reaches answerNoting (crowd default ⟨"d", "a"⟩ 2 newAgent) newAgentCrowd :=
    Pool.reaches_play ..
  obtain ⟨-, safe⟩ := crowd_safe default ⟨"d", "a"⟩ 2 newAgent
    (fun agent home tool mem => by
      rw [home] at noTools
      rw [show agent.spec.tools = [] from Except.ok.inj noTools] at mem
      cases mem)
    (fun stored found => by
      rw [found] at noFunction
      cases noFunction)
  obtain ⟨ended, once, -⟩ := safe newAgentCrowd reached
  refine ⟨first, second, ?_, once⟩
  rcases ended 0 _ first with ⟨-, store⟩ | ⟨e, failed, -⟩ | ⟨e, failed, -⟩
  · exact store
  · cases failed
  · cases failed

end Reconciler

end ControlPlane
