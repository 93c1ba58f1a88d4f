import ControlPlane.Record.Ownership
import Mathlib.Logic.Basic

/-!
Control of derived records: what putting a record under the control of an owner makes of its
references, and when doing it again changes nothing (`setController_again`) or fails
(`setController_again_of_contested`).
-/

namespace ControlPlane

namespace Metadata

variable {kind : Kind} {owner owned m : Metadata}

@[simp] theorem names_controllerReference (owner : Metadata) (kind : Kind) :
    (owner.controllerReference kind).names kind owner.uid = true := by
  simp [controllerReference, OwnerReference.names]

/-- Control never fails for a record of the owner's namespace that has no owners. -/
theorem setController_of_unowned (kind : Kind) (owner owned : Metadata)
    (same : owner.namespace = owned.namespace)
    (unowned : owned.ownerReferences = []) :
    setController kind owner owned =
      .ok { owned with ownerReferences := [owner.controllerReference kind] } := by
  simp [setController, same, controller?, withController, unowned]

/-- A controller lives in the namespace of the record. -/
theorem home_of_setController (h : setController kind owner owned = .ok m) :
    owner.namespace = owned.namespace := by
  simp only [setController] at h
  split at h
  · cases h
  · rename_i same
    exact not_not.mp same

/-- Whoever is made the controller: nothing but the references of the record changes. -/
theorem setController_eq (h : setController kind owner owned = .ok m) :
    m = { owned with ownerReferences := m.ownerReferences } := by
  simp only [setController] at h
  split at h
  · cases h
  · split at h
    · obtain rfl := Except.ok.inj h
      rfl
    · split at h
      · split at h
        · obtain rfl := Except.ok.inj h
          rfl
        · obtain rfl := Except.ok.inj h
          rfl
      · cases h

/-- The references of a record under control are those it had and the one to its controller, which
is among them. -/
theorem setController_references (h : setController kind owner owned = .ok m) :
    owner.controllerReference kind ∈ m.ownerReferences ∧
      ∀ r ∈ m.ownerReferences, r ∈ owned.ownerReferences ∨ r = owner.controllerReference kind := by
  have replaced : owner.controllerReference kind ∈ (owned.withController owner kind).ownerReferences ∧
      ∀ r ∈ (owned.withController owner kind).ownerReferences,
        r ∈ owned.ownerReferences ∨ r = owner.controllerReference kind := by
    simp only [withController, List.mem_append, List.mem_filter, List.mem_singleton]
    exact ⟨.inr trivial, fun r mem => mem.imp_left And.left⟩
  simp only [setController] at h
  split at h
  · cases h
  · split at h
    · obtain rfl := Except.ok.inj h
      exact replaced
    · rename_i held found
      split at h
      · rename_i named
        split at h
        · rename_i same
          obtain rfl := Except.ok.inj h
          have mem := List.mem_of_find?_eq_some found
          have controls := List.find?_some found
          have eq : held = owner.controllerReference kind := by
            obtain ⟨k, n, u, c⟩ := held
            simp_all [OwnerReference.names, controllerReference]
          exact ⟨eq ▸ mem, fun r mem => .inl mem⟩
        · obtain rfl := Except.ok.inj h
          exact replaced
      · cases h

/-- Only the name, the namespace and the uid of the owner matter. -/
theorem setController_congr {owner' : Metadata} (name : owner'.name = owner.name)
    (home : owner'.namespace = owner.namespace) (uid : owner'.uid = owner.uid) (owned : Metadata) :
    setController kind owner' owned = setController kind owner owned := by
  simp only [setController, withController, controllerReference, key, name, home, uid]

/-- Of the record, only the key and the references matter. -/
theorem setController_congr_owned {owned' : Metadata} (sameKey : owned'.key = owned.key)
    (references : owned'.ownerReferences = owned.ownerReferences) :
    setController kind owner owned' = (setController kind owner owned).map fun m =>
      { owned' with ownerReferences := m.ownerReferences } := by
  obtain ⟨name, home, uid, version, generation, labels, refs⟩ := owned'
  obtain ⟨rfl, rfl⟩ := RecordKey.mk.inj sameKey
  obtain rfl : refs = owned.ownerReferences := references
  simp only [setController, controller?, key]
  split
  · rfl
  · split
    · rfl
    · split
      · split <;> rfl
      · rfl

/-! ### Control taken again -/

/-- The controller of the record is the owner under another name, and some other record is a
controller too. -/
def Contested (kind : Kind) (owner owned : Metadata) : Prop :=
  (∃ held, owned.controller? = some held ∧ held.names kind owner.uid = true ∧
    held.name ≠ owner.name) ∧
  ∃ r ∈ owned.ownerReferences, r.controller = true ∧ r.names kind owner.uid = false

/-- The controller found in a record whose reference to the owner was put last. -/
theorem controller?_withController (owned owner : Metadata) (kind : Kind) :
    (owned.withController owner kind).controller? =
      ((owned.ownerReferences.filter fun r => !r.names kind owner.uid).find? (·.controller)).or
        (some (owner.controllerReference kind)) := by
  simp [controller?, withController, List.find?_append, controllerReference]

/-- A record whose reference to the owner was put last is under its control, unless another
controller is left. -/
theorem setController_withController (same : owner.namespace = owned.namespace)
    (alone : ∀ r ∈ owned.ownerReferences, r.controller = true → r.names kind owner.uid = true) :
    setController kind owner (owned.withController owner kind) =
      .ok (owned.withController owner kind) := by
  have none : (owned.ownerReferences.filter fun r => !r.names kind owner.uid).find?
      (·.controller) = none := by
    rw [List.find?_eq_none]
    intro r mem controls
    obtain ⟨mem, unnamed⟩ := List.mem_filter.mp mem
    simp [alone r mem controls] at unnamed
  have found : (owned.withController owner kind).controller? =
      some (owner.controllerReference kind) := by
    rw [controller?_withController, none, Option.none_or]
  have home : owner.namespace = (owned.withController owner kind).namespace := same
  simp only [setController, home, found, names_controllerReference]
  simp [controllerReference]

/-- Putting a record under control once more changes nothing, unless its control was contested. -/
theorem setController_again (h : setController kind owner owned = .ok m)
    (uncontested : ¬ Contested kind owner owned) : setController kind owner m = .ok m := by
  have same := home_of_setController h
  have taken := h
  simp only [setController, same, ne_eq, not_true_eq_false, if_false] at h
  split at h
  · rename_i none
    obtain rfl := Except.ok.inj h
    refine setController_withController same fun r mem controls => ?_
    exact absurd controls (List.find?_eq_none.mp none r mem)
  · rename_i held found
    split at h
    · rename_i named
      split at h
      · obtain rfl := Except.ok.inj h
        exact taken
      · rename_i otherName
        obtain rfl := Except.ok.inj h
        refine setController_withController same fun r mem controls => ?_
        cases names : r.names kind owner.uid with
        | true => rfl
        | false =>
          exact absurd ⟨⟨held, found, named, otherName⟩, r, mem, controls, names⟩ uncontested
    · cases h

/-- Putting a record under control once more fails where its control was contested: the other
controller stands before the reference that was put last. -/
theorem setController_again_of_contested (h : setController kind owner owned = .ok m)
    (contested : Contested kind owner owned) : ∃ e, setController kind owner m = .error e := by
  have same := home_of_setController h
  obtain ⟨⟨held, found, named, otherName⟩, r, mem, controls, unnamed⟩ := contested
  simp only [setController, same, ne_eq, not_true_eq_false, if_false, found, named, if_true,
    otherName] at h
  obtain rfl := Except.ok.inj h
  have isSome : ((owned.ownerReferences.filter fun r => !r.names kind owner.uid).find?
      (·.controller)).isSome := by
    rw [List.find?_isSome]
    exact ⟨r, List.mem_filter.mpr ⟨mem, by simp [unnamed]⟩, controls⟩
  obtain ⟨first, isFirst⟩ := Option.isSome_iff_exists.mp isSome
  have foreign := (List.mem_filter.mp (List.mem_of_find?_eq_some isFirst)).2
  have controller : (owned.withController owner kind).controller? = some first := by
    rw [controller?_withController, isFirst, Option.some_or]
  have home : owner.namespace = (owned.withController owner kind).namespace := same
  simp only [Bool.not_eq_true'] at foreign
  simp [setController, home, controller, foreign]

end Metadata

end ControlPlane
