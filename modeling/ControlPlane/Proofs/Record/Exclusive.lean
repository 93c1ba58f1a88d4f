import ControlPlane.Proofs.Record.Ownership

/-!
Exclusive control: whether taking control of a record leaves the owner as its only controller.
Control is refused exactly where the first controller among the references is another record, or
the owner lives elsewhere (`setController_isOk_iff`). So the owner is the only controller afterwards,
and taking control again changes nothing, exactly if no rival was passed over and the reference to
the owner stood there once at most (`exclusive_iff`).
-/

namespace ControlPlane

namespace Metadata

variable {kind : Kind} {owner owned m : Metadata}

/-- The references to the controllers of a record. -/
def controllers (m : Metadata) : List OwnerReference := m.ownerReferences.filter (·.controller)

/-- The references to all records but one. -/
def otherOwners (m : Metadata) (kind : Kind) (uid : String) : List OwnerReference :=
  m.ownerReferences.filter fun r => !r.names kind uid

/-- The metadata of a record after an owner tried to take control of it. -/
def afterControl (kind : Kind) (owner owned : Metadata) : Metadata :=
  (setController kind owner owned).toOption.getD owned

/-- No controller of a record names another record than an owner, and none is left beside a
reference to the owner that stands first. -/
structure Unrivalled (kind : Kind) (owner owned : Metadata) : Prop where
  own : ∀ r ∈ owned.controllers, r.names kind owner.uid = true
  once : owned.controller? = some (owner.controllerReference kind) →
    owned.controllers = [owner.controllerReference kind]

/-- Control is exclusive: it is taken only of a record of the same namespace that no other record
controls, and then the owner is the only controller, references to others stand as they stood, and
taking control again changes nothing; where it is refused, nothing changes. -/
structure Exclusive (kind : Kind) (owner owned : Metadata) : Prop where
  home : ∀ m, setController kind owner owned = .ok m → owner.namespace = owned.namespace
  free : ∀ m, setController kind owner owned = .ok m →
    ∀ r ∈ owned.controllers, r.names kind owner.uid = true
  sole : ∀ m, setController kind owner owned = .ok m →
    m.controllers = [owner.controllerReference kind]
  kept : ∀ m, setController kind owner owned = .ok m →
    m.otherOwners kind owner.uid = owned.otherOwners kind owner.uid
  again : ∀ m, setController kind owner owned = .ok m → setController kind owner m = .ok m
  refused : ∀ e, setController kind owner owned = .error e → afterControl kind owner owned = owned

/-! ### When control is taken -/

/-- What becomes of a record whose control is taken: it is left alone if the owner is its first
controller under the same name, and gets a new reference else. -/
theorem setController_eq_ok_iff : setController kind owner owned = .ok m ↔
    owner.namespace = owned.namespace ∧
      (∀ held, owned.controller? = some held → held.names kind owner.uid = true) ∧
      m = if owned.controller? = some (owner.controllerReference kind) then owned
        else owned.withController owner kind := by
  rw [setController]
  by_cases home : owner.namespace = owned.namespace
  · rw [if_neg (not_not.mpr home)]
    cases first : owned.controller? with
    | none =>
      simp only [home, reduceCtorEq, false_implies, implies_true, true_and, if_false,
        Except.ok.injEq]
      exact eq_comm
    | some held =>
      have controls : held.controller = true := List.find?_some first
      cases named : held.names kind owner.uid with
      | false => simp [home, named]
      | true =>
        have same : held.name = owner.name ↔ held = owner.controllerReference kind := by
          obtain ⟨k, n, u, c⟩ := held
          simp_all [OwnerReference.names, controllerReference]
        simp only [home, named, same, if_true, Option.some.injEq, forall_eq', true_and]
        split <;> rw [Except.ok.injEq] <;> exact eq_comm
  · simp [home]

/-- Control is taken of the records of the owner's namespace whose first controller, if there is
one, is the owner. -/
theorem setController_isOk_iff : (∃ m, setController kind owner owned = .ok m) ↔
    owner.namespace = owned.namespace ∧
      ∀ held, owned.controller? = some held → held.names kind owner.uid = true := by
  simp only [setController_eq_ok_iff]
  exact ⟨fun ⟨_, home, own, _⟩ => ⟨home, own⟩, fun ⟨home, own⟩ => ⟨_, home, own, rfl⟩⟩

theorem afterControl_of_error {e : OwnershipError}
    (refused : setController kind owner owned = .error e) :
    afterControl kind owner owned = owned := by
  rw [afterControl, refused]
  rfl

/-! ### What is left of the references -/

theorem otherOwners_withController (owned owner : Metadata) (kind : Kind) :
    (owned.withController owner kind).otherOwners kind owner.uid =
      owned.otherOwners kind owner.uid := by
  simp [otherOwners, withController]

/-- References to others stand as they stood. -/
theorem otherOwners_of_setController (taken : setController kind owner owned = .ok m) :
    m.otherOwners kind owner.uid = owned.otherOwners kind owner.uid := by
  obtain ⟨-, -, rfl⟩ := setController_eq_ok_iff.mp taken
  split
  · rfl
  · exact otherOwners_withController owned owner kind

/-- A new reference to the owner comes after the controllers that are other records. -/
theorem controllers_withController (owned owner : Metadata) (kind : Kind) :
    (owned.withController owner kind).controllers =
      (owned.controllers.filter fun r => !r.names kind owner.uid) ++
        [owner.controllerReference kind] := by
  simp [controllers, withController, controllerReference, Bool.and_comm]

/-- The new reference is the only controller exactly if no other record was one. -/
theorem controllers_withController_iff :
    (owned.withController owner kind).controllers = [owner.controllerReference kind] ↔
      ∀ r ∈ owned.controllers, r.names kind owner.uid = true := by
  rw [controllers_withController]
  simp

/-- Where control is taken, the owner is the only controller afterwards exactly if it had no
rival. -/
theorem controllers_iff_unrivalled (taken : setController kind owner owned = .ok m) :
    ((∀ r ∈ owned.controllers, r.names kind owner.uid = true) ∧
      m.controllers = [owner.controllerReference kind]) ↔ Unrivalled kind owner owned := by
  obtain ⟨-, -, rfl⟩ := setController_eq_ok_iff.mp taken
  split
  · rename_i first
    exact ⟨fun ⟨own, once⟩ => ⟨own, fun _ => once⟩, fun h => ⟨h.own, h.once first⟩⟩
  · rename_i other
    rw [controllers_withController_iff]
    exact ⟨fun h => ⟨h.1, fun first => absurd first other⟩, fun h => ⟨h.own, h.own⟩⟩

/-- Where control is taken of a record without rivals, taking it again changes nothing. -/
theorem Unrivalled.again (h : Unrivalled kind owner owned)
    (taken : setController kind owner owned = .ok m) : setController kind owner m = .ok m := by
  refine setController_again taken ?_
  rintro ⟨-, r, mem, controls, unnamed⟩
  have named := h.own r (List.mem_filter.mpr ⟨mem, controls⟩)
  rw [named] at unnamed
  cases unnamed

/-- Control that is taken of records without rivals only is exclusive. -/
theorem exclusive_of_unrivalled
    (h : ∀ m, setController kind owner owned = .ok m → Unrivalled kind owner owned) :
    Exclusive kind owner owned where
  home _ taken := home_of_setController taken
  free m taken := (h m taken).own
  sole m taken := ((controllers_iff_unrivalled taken).mpr (h m taken)).2
  kept _ taken := otherOwners_of_setController taken
  again m taken := (h m taken).again taken
  refused _ refused := afterControl_of_error refused

/-- Control is taken of the records of the owner's namespace whose first controller, if any, is the
owner. It is exclusive exactly if it is refused, or the record had no rival: none passed over
behind the owner, and no second reference to the owner as a controller. -/
theorem exclusive_iff (kind : Kind) (owner owned : Metadata) :
    ((∃ m, setController kind owner owned = .ok m) ↔
      owner.namespace = owned.namespace ∧
        ∀ held, owned.controller? = some held → held.names kind owner.uid = true) ∧
    (∀ m, setController kind owner owned = .ok m →
      m = { owned with ownerReferences := m.ownerReferences } ∧
        owner.controllerReference kind ∈ m.controllers ∧
        m.otherOwners kind owner.uid = owned.otherOwners kind owner.uid) ∧
    (Exclusive kind owner owned ↔
      ∀ m, setController kind owner owned = .ok m → Unrivalled kind owner owned) := by
  refine ⟨setController_isOk_iff, fun m taken => ⟨setController_eq taken, ?_,
    otherOwners_of_setController taken⟩, ?_, ?_⟩
  · exact List.mem_filter.mpr ⟨(setController_references taken).1, rfl⟩
  · intro exclusive m taken
    exact (controllers_iff_unrivalled taken).mp ⟨exclusive.free m taken, exclusive.sole m taken⟩
  · exact exclusive_of_unrivalled

/-- An agent may take control again of a function that names it as a controller, though another
agent is a controller of the function too. -/
theorem passedOver_taken :
    let owner : Metadata := { name := "a", «namespace» := "d", uid := "u1" }
    let rival : OwnerReference := ⟨.agent, "b", "u2", true⟩
    let owned : Metadata :=
      { name := "f", «namespace» := "d", ownerReferences := [owner.controllerReference .agent, rival] }
    setController .agent owner owned = .ok owned ∧ rival ∈ owned.controllers ∧
      ¬ Exclusive .agent owner owned := by
  intro owner rival owned
  have taken : setController .agent owner owned = .ok owned := rfl
  refine ⟨taken, by decide +kernel, fun exclusive => ?_⟩
  exact absurd (exclusive.free owned taken rival (by decide +kernel)) (by decide +kernel)

end Metadata

end ControlPlane
