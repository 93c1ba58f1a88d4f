import ControlPlane.Proofs.Controller.Listing
import ControlPlane.Proofs.Reconcile.Disturbed

/-!
Passes over a store that may fail any call. A pass has results as soon as the agents can be listed,
and then one for every agent of the listing, in the order of the listing
(`Pass.interleaved_reconcileAll`). No write is late afterwards but at the keys that failed, and at
every other key the function is under the control of its agent (`Pass.leavesAll_of_reconcileEach`).
-/

namespace ControlPlane

variable {κ : Type} [Address κ]

namespace Pass

variable {broker : BrokerSettings} {key : RecordKey} {keys : List RecordKey}
  {results : List (RecordKey × InvocationResult)} {w v : Store κ × List Call}

/-- The agents are listed as they are at the moment of the listing. -/
theorem interleaved_agentKeys (run : agentKeys.run.Interleaved unreliable w (.ok keys) v) :
    ∃ u, unreliable.drift w u ∧ keys = (u.1.select .agent none).map RecordOf.key ∧
      unreliable.drift u v := by
  rw [agentKeys_run] at run
  obtain ⟨u, before, listed, after⟩ := Routine.interleaved_read rfl (fun e => ⟨e, rfl⟩) run
  exact ⟨u, before, agentKeys_eq ((endOn_agentKeys u.1).trans listed), after⟩

section

variable {ω : Type} {I : Interference ω} {w v : ω}

/-- A pass makes the invocation for its first key, and then the rest of it. -/
theorem interleaved_reconcileEach_cons
    (run : (reconcileEach broker (key :: keys)).run.Interleaved I w (.ok results) v) :
    ∃ result rest u, (Reconciler.reconcile broker key).run.Interleaved I w result u ∧
      (reconcileEach broker keys).run.Interleaved I u (.ok rest) v ∧
      results = (key, result) :: rest := by
  obtain ⟨result, u, first, next⟩ := Attempt.interleaved_bind_ok_iff.mp run
  obtain ⟨rest, u', others, last⟩ := Attempt.interleaved_bind_ok_iff.mp next
  rw [Attempt.result_run] at first
  obtain ⟨_, u'', one, told⟩ := Routine.interleaved_bind_iff.mp first
  obtain ⟨same, drifted⟩ := Routine.interleaved_done_iff.mp told
  obtain ⟨same', drifted'⟩ := Routine.interleaved_done_iff.mp last
  obtain rfl := Except.ok.inj same
  exact ⟨_, rest, u'', one, (others.of_drift drifted).drift drifted', Except.ok.inj same'⟩

/-- A pass has a result for each of its keys, in their order. -/
theorem keys_of_reconcileEach
    (run : (reconcileEach broker keys).run.Interleaved I w (.ok results) v) :
    results.map Prod.fst = keys := by
  induction keys generalizing w v results with
  | nil =>
    cases run with
    | done => rfl
  | cons key keys ih =>
    obtain ⟨result, rest, u, -, others, rfl⟩ := interleaved_reconcileEach_cons run
    rw [List.map_cons, ih others]

end

/-- The keys at which a write may be late after a pass. -/
def lateAfterAll (results : List (RecordKey × InvocationResult)) : List RecordKey :=
  results.flatMap fun r => lateAfter r.1 r.2

theorem mem_lateAfterAll_iff :
    key ∈ lateAfterAll results ↔ ∃ e, (key, Except.error e) ∈ results := by
  simp only [lateAfterAll, List.mem_flatMap, Prod.exists]
  constructor
  · rintro ⟨k, result, mem, isLate⟩
    cases result with
    | error e =>
      obtain rfl := List.mem_singleton.mp isLate
      exact ⟨e, mem⟩
    | ok outcome => cases isLate
  · rintro ⟨e, mem⟩
    exact ⟨key, .error e, mem, List.mem_singleton_self key⟩

/-- What a pass leaves where writes at other keys are late: nothing has changed but what stands at
its keys and at those, no write at its keys is late but at those that failed, and the others were
synced with the agents that there were. -/
structure LeavesAll (gone : List RecordKey) (s : Store κ)
    (results : List (RecordKey × InvocationResult)) (v : Store κ × List Call) : Prop where
  same : s.SameBeside (results.map Prod.fst ++ gone) v.1
  late : LateWrites κ (lateAfterAll results ++ gone) v.2
  synced : ∀ key outcome, (key, .ok outcome) ∈ results → ∃ agent, s.fetch AgentSpec key = .ok agent ∧
    Reconciler.SyncedFor agent key outcome v.1

/-- An invocation, and a pass over other keys from where it ended, leave what a pass over all of them
leaves. -/
theorem LeavesAll.cons {gone : List RecordKey} {s : Store κ} {u : Store κ × List Call}
    {result : InvocationResult} {rest : List (RecordKey × InvocationResult)}
    (here : Leaves gone key s (fun outcome t => ∃ agent, s.fetch AgentSpec key = .ok agent ∧
      Reconciler.SyncedFor agent key outcome t) result u)
    (atRest : LeavesAll (lateAfter key result ++ gone) u.1 rest v)
    (accepted : ∀ k ∈ key :: rest.map Prod.fst, Address.refusal? κ k = none)
    (nodup : (key :: rest.map Prod.fst).Nodup) (apart : ∀ k ∈ key :: rest.map Prod.fst, k ∉ gone) :
    LeavesAll gone s ((key, result) :: rest) v := by
  obtain ⟨fresh, nodup⟩ := List.nodup_cons.mp nodup
  obtain ⟨acceptedHere, accepted⟩ := List.forall_mem_cons.mp accepted
  obtain ⟨apartHere, apart⟩ := List.forall_mem_cons.mp apart
  refine ⟨?_, atRest.late.mono (by simp [lateAfterAll]), fun k outcome mem => ?_⟩
  · refine (here.same.mono (by simp)).trans (atRest.same.mono ?_)
    refine List.append_subset.mpr ⟨by simp, ?_⟩
    exact List.Subset.trans (lateAfter_append_subset key result gone) (by simp)
  · rcases List.mem_cons.mp mem with first | mem
    · -- Nothing is late at the key of an invocation that succeeded, and no other key is this one.
      obtain ⟨rfl, rfl⟩ := Prod.mk.inj first
      obtain ⟨agent, home, isSynced, controlled⟩ := here.achieved outcome rfl
      refine ⟨agent, home, isSynced, controlled.of_same acceptedHere ?_ atRest.same⟩
      exact fun isLate => (List.mem_append.mp isLate).elim fresh apartHere
    · have isKey : k ∈ rest.map Prod.fst := List.mem_map_of_mem mem
      have beside : k ∉ key :: gone := fun isLate =>
        (List.mem_cons.mp isLate).elim (fun same => fresh (same ▸ isKey)) (apart k isKey)
      obtain ⟨agent, home, synced⟩ := atRest.synced k outcome mem
      exact ⟨agent, (here.same.fetch_eq (accepted k isKey) beside).symm.trans home, synced⟩

/-- A pass over keys of agents that are stored, each once. -/
theorem leavesAll_of_reconcileEach {gone : List RecordKey} (late : LateWrites κ gone w.2)
    (nodup : keys.Nodup) (apart : ∀ key ∈ keys, key ∉ gone)
    (stored : ∀ key ∈ keys, Address.refusal? κ key = none ∧ (w.1.find? .agent key).isSome)
    (run : (reconcileEach broker keys).run.Interleaved unreliable w (.ok results) v) :
    LeavesAll gone w.1 results v := by
  induction keys generalizing w gone results with
  | nil =>
    obtain ⟨same, same', late'⟩ := late.done run
    obtain rfl := Except.ok.inj same
    exact ⟨same', late', fun _ _ mem => absurd mem List.not_mem_nil⟩
  | cons key keys ih =>
    obtain ⟨result, rest, u, first, others, rfl⟩ := interleaved_reconcileEach_cons run
    obtain rfl : rest.map Prod.fst = keys := keys_of_reconcileEach others
    obtain ⟨accepted, there⟩ := stored key List.mem_cons_self
    have here := Reconciler.interleaved_reconcile accepted (apart key List.mem_cons_self) late there
      first
    -- The agents to come stand neither at this key nor at one at which a write is late.
    have beside : ∀ k ∈ rest.map Prod.fst, k ∉ key :: gone := fun k mem isLate =>
      (List.mem_cons.mp isLate).elim (fun same => (List.nodup_cons.mp nodup).1 (same ▸ mem))
        (apart k (List.mem_cons_of_mem _ mem))
    refine .cons here ?_ (fun k mem => (stored k mem).1) nodup apart
    refine ih here.late (List.nodup_cons.mp nodup).2
      (fun k mem isLate => beside k mem (lateAfter_append_subset key result gone isLate))
      (fun k mem => ?_) others
    obtain ⟨accepted, there⟩ := stored k (List.mem_cons_of_mem _ mem)
    exact ⟨accepted, here.same .agent k accepted (beside k mem) ▸ there⟩

/-- A pass has a result for every agent that is stored when it begins, in the order of the
listing. -/
theorem interleaved_reconcileAll
    (run : (reconcileAll broker).run.Interleaved unreliable w (.ok results) v) :
    ∃ u, unreliable.drift w u ∧ results.map Prod.fst = (u.1.select .agent none).map RecordOf.key ∧
      (reconcileEach broker (results.map Prod.fst)).run.Interleaved unreliable u (.ok results) v := by
  obtain ⟨keys, u', listed, each⟩ := Attempt.interleaved_bind_ok_iff.mp run
  obtain ⟨u, before, rfl, after⟩ := interleaved_agentKeys listed
  have keys := keys_of_reconcileEach each
  exact ⟨u, before, keys, keys ▸ each.of_drift after⟩

end Pass

end ControlPlane
