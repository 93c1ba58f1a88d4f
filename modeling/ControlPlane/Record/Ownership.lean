import ControlPlane.Record.Metadata

/-!
Control of derived records. A record has at most one controller, which lives in the record's
namespace; making the same record the controller again changes nothing.
-/

namespace ControlPlane

/-- Why a record cannot be put under the control of another. -/
inductive OwnershipError where
  | crossNamespace (owner owned : RecordKey)
  | controlled (owned : RecordKey) (kind : Kind) (name : String)
  deriving DecidableEq, Inhabited

/-- The words for an ownership error. -/
def OwnershipError.message : OwnershipError → String
  | .crossNamespace owner owned => "cross-namespace owner " ++ owner.text ++ " for " ++ owned.text
  | .controlled owned kind name =>
    owned.text ++ " is already controlled by " ++ kind.text ++ " " ++ name

namespace Metadata

/-- The reference to a record as a controller. -/
def controllerReference (owner : Metadata) (kind : Kind) : OwnerReference :=
  ⟨kind, owner.name, owner.uid, true⟩

/-- The metadata with the reference to a controller last, in place of other references to it. -/
def withController (owned owner : Metadata) (kind : Kind) : Metadata :=
  { owned with
    ownerReferences := owned.ownerReferences.filter (fun r => !r.names kind owner.uid) ++
      [owner.controllerReference kind] }

/-- Puts a record under the control of an owner. -/
def setController (kind : Kind) (owner owned : Metadata) : Except OwnershipError Metadata :=
  if owner.namespace ≠ owned.namespace then .error (.crossNamespace owner.key owned.key)
  else
    match owned.controller? with
    | none => .ok (owned.withController owner kind)
    | some held =>
      if held.names kind owner.uid then
        if held.name = owner.name then .ok owned else .ok (owned.withController owner kind)
      else .error (.controlled owned.key held.kind held.name)

end Metadata

end ControlPlane
