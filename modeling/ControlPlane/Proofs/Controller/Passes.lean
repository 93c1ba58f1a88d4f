import ControlPlane.Proofs.Controller.Listing
import ControlPlane.Proofs.Reconcile.Faces
import Mathlib.Data.Finset.Card

/-!
Repeated passes over all agents. Tools may be functions of other agents, so a pass can change what a
later one composes; but every face changes at most once, and a pass that changes no face leaves
nothing to do. With as many agents as there are, only so many passes can have an effect
(`Pass.announced_passes`).
-/

namespace ControlPlane

variable {κ : Type} [Address κ]

namespace Pass

open Reconciler (after Idle)

variable {broker : BrokerSettings} {s : Store κ} {keys : List RecordKey}

/-! ### One pass -/

/-- One invocation after another. -/
theorem runOn_reconcileEach_cons (broker : BrokerSettings) (key : RecordKey)
    (rest : List RecordKey) (s : Store κ) :
    ((reconcileEach broker (key :: rest)).run.runOn s).2 =
      ((reconcileEach broker rest).run.runOn (after broker s key)).2.after
        ((Reconciler.reconcile broker key).run.runOn s).2.announced := by
  rw [reconcileEach, Attempt.bind_run, Attempt.result_run, Routine.bind_assoc, Routine.runOn_bind]
  simp only [Routine.done_bind, Attempt.bind_run, Routine.runOn_bind, after]
  generalize (reconcileEach broker rest).run.runOn
    ((Reconciler.reconcile broker key).run.runOn s).2.store = last
  obtain ⟨o, w⟩ := last
  cases o <;>
    simp only [Attempt.pure_run, Routine.runOn_done, Written.after, List.append_nil]

/-- The invocations of a pass, one after another. -/
theorem store_reconcileEach (broker : BrokerSettings) (keys : List RecordKey) (s : Store κ) :
    ((reconcileEach broker keys).run.runOn s).2.store = keys.foldl (after broker) s := by
  induction keys generalizing s with
  | nil => rfl
  | cons key rest ih =>
    rw [runOn_reconcileEach_cons, Written.after_store, ih]
    rfl

/-- Invocations that are idle are a pass that has no effect. -/
theorem runOn_reconcileEach_of_idle (idle : ∀ key ∈ keys, Idle broker key s) :
    ((reconcileEach broker keys).run.runOn s).2 = ⟨s, []⟩ := by
  induction keys with
  | nil => rfl
  | cons key rest ih =>
    have first := idle key List.mem_cons_self
    rw [runOn_reconcileEach_cons, first.after_eq,
      ih fun key' mem => idle key' (List.mem_cons_of_mem _ mem)]
    rw [Idle] at first
    rw [first]
    rfl

/-- Along a pass no function loses its derived face. -/
theorem faced_foldl (broker : BrokerSettings) (keys : List RecordKey) {key : RecordKey}
    (h : s.Faced key) : (keys.foldl (after broker) s).Faced key := by
  induction keys generalizing s with
  | nil => exact h
  | cons key' rest ih => exact ih ((Reconciler.step_faces broker key' s).2 key h)

/-- Some function gets its derived face in a pass, or all agents of the pass, and those that had
nothing left to do before, have nothing left to do after it. -/
theorem faced_or_idle (broker : BrokerSettings) (keys seen : List RecordKey) (s : Store κ)
    (accepted : ∀ key ∈ seen ++ keys, Address.refusal? κ key = none)
    (idle : ∀ key ∈ seen, Idle broker key s) :
    (∃ key ∈ keys, ¬ s.Faced key ∧ (keys.foldl (after broker) s).Faced key) ∨
      ∀ key ∈ seen ++ keys, Idle broker key (keys.foldl (after broker) s) := by
  induction keys generalizing s seen with
  | nil =>
    right
    simpa using idle
  | cons key rest ih =>
    rw [List.foldl_cons]
    obtain ⟨first | ⟨before, first⟩, keeps⟩ := Reconciler.step_faces broker key s
    · have idle' : ∀ key' ∈ seen ++ [key], Idle broker key' (after broker s key) := by
        intro key' mem
        by_cases same : key' = key
        · rw [same]
          exact Reconciler.idle_after first
        · have mem' : key' ∈ seen := by simpa [same] using mem
          have apart : ∀ kind : Kind, Address.of (κ := κ) kind key' ≠ Address.of kind key :=
            fun kind eq => same (Address.of_inj (accepted key' (by simp [mem']))
              (accepted key (by simp)) eq)
          exact (idle key' mem').congr first
            (Reconciler.after_others broker (Address.function_ne_agent key key').symm (apart _))
            (Reconciler.after_others broker (apart _) (Address.function_ne_agent key' key))
      have accepted' : ∀ key' ∈ (seen ++ [key]) ++ rest, Address.refusal? κ key' = none := by
        simpa using accepted
      rcases ih (seen ++ [key]) (after broker s key) accepted' idle' with
          ⟨key', mem, before, faced⟩ | idle''
      · refine .inl ⟨key', List.mem_cons_of_mem _ mem, fun h => before (keeps key' h), faced⟩
      · exact .inr (by simpa using idle'')
    · exact .inl ⟨key, List.mem_cons_self, before, faced_foldl broker rest first⟩

/-! ### Repeated passes -/

/-- A pass has no effect. -/
def Quiet (broker : BrokerSettings) (s : Store κ) : Prop :=
  ((reconcileAll broker).run.runOn s).2 = ⟨s, []⟩

/-- The store after a number of passes with nothing in between. -/
def passes (broker : BrokerSettings) (s : Store κ) : Nat → Store κ
  | 0 => s
  | n + 1 => ((reconcileAll broker).run.runOn (passes broker s n)).2.store

theorem runOn_reconcileAll (broker : BrokerSettings) (s : Store κ) :
    ((reconcileAll broker).run.runOn s).2 =
      match agentKeys.endOn s with
      | .error _ => ⟨s, []⟩
      | .ok keys => ((reconcileEach broker keys).run.runOn s).2 := by
  rw [reconcileAll, Attempt.bind_run, Routine.runOn_bind, (agentKeys_readsOn s).runOn,
    Attempt.endOn]
  cases (agentKeys.run.runOn s).1 <;> rfl

theorem quiet_of_error {e : StoreError} (failed : agentKeys.endOn s = .error e) :
    Quiet broker s := by
  rw [Quiet, runOn_reconcileAll, failed]

theorem store_pass (listed : agentKeys.endOn s = .ok keys) :
    ((reconcileAll broker).run.runOn s).2.store = keys.foldl (after broker) s := by
  rw [runOn_reconcileAll, listed]
  exact store_reconcileEach broker keys s

/-- A pass neither adds nor drops an agent. -/
theorem isSome_agent_foldl (broker : BrokerSettings) (keys : List RecordKey) (s : Store κ)
    (key : RecordKey) :
    ((keys.foldl (after broker) s).find? .agent key).isSome = (s.find? .agent key).isSome := by
  induction keys generalizing s with
  | nil => rfl
  | cons key' rest ih => rw [List.foldl_cons, ih, Reconciler.isSome_agent_after]

/-- In a pass some function gets its derived face, or the next pass has no effect. -/
theorem faced_or_quiet (broker : BrokerSettings) (listed : agentKeys.endOn s = .ok keys) :
    (∃ key ∈ keys, ¬ s.Faced key ∧ (keys.foldl (after broker) s).Faced key) ∨
      Quiet broker (keys.foldl (after broker) s) := by
  have accepted : ∀ key ∈ [] ++ keys, Address.refusal? κ key = none := by
    intro key mem
    exact ((mem_agentKeys_iff listed).mp mem).1
  rcases faced_or_idle broker keys [] s accepted nofun with faced | idle
  · exact .inl faced
  · right
    cases listed' : agentKeys.endOn (keys.foldl (after broker) s) with
    | error e => exact quiet_of_error listed'
    | ok keys' =>
      rw [Quiet, runOn_reconcileAll, listed']
      refine runOn_reconcileEach_of_idle fun key mem => idle key ?_
      rw [mem_agentKeys_iff listed', isSome_agent_foldl] at mem
      exact (mem_agentKeys_iff listed).mpr mem

theorem passes_of_quiet {n : Nat} (quiet : Quiet broker (passes broker s n)) (i : Nat) :
    passes broker s (n + i) = passes broker s n := by
  induction i with
  | zero => rfl
  | succ i ih =>
    rw [← Nat.add_assoc, passes, ih]
    exact congrArg Written.store quiet

/-- All passes list the same agents, as long as the listing does not fail. -/
theorem mem_agentKeys_passes (listed : agentKeys.endOn s = .ok keys) (n : Nat)
    {keys' : List RecordKey} (listed' : agentKeys.endOn (passes broker s n) = .ok keys')
    {key : RecordKey} : key ∈ keys' ↔ key ∈ keys := by
  have same : ∀ n, ((passes broker s n).find? .agent key).isSome = (s.find? .agent key).isSome := by
    intro n
    induction n with
    | zero => rfl
    | succ n ih =>
      rw [passes]
      cases listing : agentKeys.endOn (passes broker s n) with
      | error e => rw [show ((reconcileAll broker).run.runOn _).2 = _ from quiet_of_error listing, ih]
      | ok keys'' => rw [store_pass listing, isSome_agent_foldl, ih]
  rw [mem_agentKeys_iff listed', mem_agentKeys_iff listed, same]

/-- The agents of a list whose function does not have the derived face. -/
noncomputable def unfaced (s : Store κ) (keys : List RecordKey) : Finset RecordKey :=
  open Classical in keys.toFinset.filter fun key => ¬ s.Faced key

/-- Every pass before the first that has no effect gives some function its derived face. -/
theorem quiet_or_unfaced_le (broker : BrokerSettings) (listed : agentKeys.endOn s = .ok keys) (n : Nat) :
    (∃ m ≤ n, Quiet broker (passes broker s m)) ∨
      (unfaced (passes broker s n) keys).card + n ≤ keys.length := by
  induction n with
  | zero =>
    right
    classical
    exact (Finset.card_filter_le keys.toFinset _).trans keys.toFinset_card_le
  | succ n ih =>
    rcases ih with ⟨m, le, quiet⟩ | bound
    · exact .inl ⟨m, Nat.le_succ_of_le le, quiet⟩
    · cases listing : agentKeys.endOn (passes broker s n) with
      | error e => exact .inl ⟨n, Nat.le_succ n, quiet_of_error listing⟩
      | ok keys' =>
        have next : passes broker s (n + 1) = keys'.foldl (after broker) (passes broker s n) :=
          store_pass listing
        rcases faced_or_quiet broker listing with ⟨key, mem, before, faced⟩ | quiet
        · right
          have smaller : unfaced (passes broker s (n + 1)) keys ⊂
              unfaced (passes broker s n) keys := by
            rw [next, Finset.ssubset_iff_of_subset]
            · refine ⟨key, ?_, ?_⟩
              · simpa [unfaced, before] using (mem_agentKeys_passes listed n listing).mp mem
              · simp [unfaced, faced]
            · intro key' mem'
              simp only [unfaced, Finset.mem_filter] at mem' ⊢
              exact ⟨mem'.1, fun h => mem'.2 (faced_foldl broker keys' h)⟩
          have := Finset.card_lt_card smaller
          omega
        · exact .inl ⟨n + 1, Nat.le_refl _, next ▸ quiet⟩

/-- With n agents stored, the pass number n + 2 and all later ones announce nothing. Passes are
counted from zero here. -/
theorem announced_passes (broker : BrokerSettings) (s : Store κ) (i : Nat) :
    ((reconcileAll broker).run.runOn
      (passes broker s ((s.select .agent none).length + 1 + i))).2.announced = [] := by
  have quiet : ∃ m ≤ (s.select .agent none).length + 1, Quiet broker (passes broker s m) := by
    cases listed : agentKeys.endOn s with
    | error e => exact ⟨0, Nat.zero_le _, quiet_of_error listed⟩
    | ok keys =>
      rcases quiet_or_unfaced_le broker listed ((s.select .agent none).length + 1) with
          quiet | bound
      · exact quiet
      · rw [agentKeys_eq listed, List.length_map] at bound
        omega
  obtain ⟨m, le, quiet⟩ := quiet
  obtain ⟨j, eq⟩ := Nat.exists_eq_add_of_le (Nat.le_trans le (Nat.le_add_right _ i))
  rw [eq, passes_of_quiet quiet]
  exact congrArg Written.announced quiet

end Pass

end ControlPlane
