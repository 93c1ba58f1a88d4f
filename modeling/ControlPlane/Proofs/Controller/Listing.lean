import ControlPlane.Controller.Pass
import ControlPlane.Proofs.Store.Run
import ControlPlane.Proofs.Store.Typed

/-!
The listing of all agents: it reads once, and if every agent can be read, its keys are those of the
stored agents (`Pass.mem_agentKeys_iff`).
-/

namespace ControlPlane

variable {κ : Type} [Address κ]

namespace Pass

variable {s : Store κ} {keys : List RecordKey}

theorem agentKeys_run : agentKeys.run = .call (.list .agent none) fun o =>
    .done ((o >>= fun rs => rs.mapM (Client.typed (σ := AgentSpec))).map
      (·.map RecordOf.key)) := by
  rw [agentKeys, Attempt.bind_run, Client.list_run]
  show Routine.call _ _ = _
  congr 1
  funext o
  rw [Routine.done_bind]
  cases o >>= fun rs => rs.mapM (Client.typed (σ := AgentSpec)) <;> rfl

theorem agentKeys_readsOn (s : Store κ) : agentKeys.run.ReadsOn s := by
  rw [agentKeys_run]
  exact ⟨rfl, trivial⟩

theorem endOn_agentKeys (s : Store κ) : agentKeys.endOn s =
    ((s.select .agent none).mapM (Client.typed (σ := AgentSpec))).map (·.map RecordOf.key) := by
  rw [Attempt.endOn, agentKeys_run]
  rfl

/-- The keys that are listed are those of the stored agents, in the order of their addresses. -/
theorem agentKeys_eq (listed : agentKeys.endOn s = .ok keys) :
    keys = (s.select .agent none).map RecordOf.key := by
  rw [endOn_agentKeys, Outcome.map_eq_ok_iff] at listed
  obtain ⟨agents, read, rfl⟩ := listed
  exact Client.keys_of_listed read

/-- A key is listed exactly if it is not refused and an agent is found at it. -/
theorem mem_agentKeys_iff (listed : agentKeys.endOn s = .ok keys) {key : RecordKey} :
    key ∈ keys ↔ Address.refusal? κ key = none ∧ (s.find? .agent key).isSome := by
  rw [agentKeys_eq listed, List.mem_map]
  constructor
  · rintro ⟨r, mem, rfl⟩
    have found := Store.mem_select_iff.mp mem
    exact ⟨(Store.filed_find? found).2, Option.isSome_of_eq_some found⟩
  · rintro ⟨accepted, isSome⟩
    obtain ⟨r, found⟩ := Option.isSome_iff_exists.mp isSome
    have sameKey := Store.key_of_find? accepted found
    exact ⟨r, Store.mem_select_of_find? found, sameKey⟩

end Pass

end ControlPlane
