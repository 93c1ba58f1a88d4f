import ControlPlane.Record.Key

/-!
Metadata: the identity, the versions, the labels and the owners of a record.
-/

namespace ControlPlane

/-! ### Owner references -/

/-- A reference from a derived record to a record that owns it. -/
structure OwnerReference where
  kind : Kind
  name : String
  uid : String
  /-- Whether the owner is the one that writes the record. -/
  controller : Bool
  deriving DecidableEq, Inhabited

namespace OwnerReference

/-- The fields of an owner reference. -/
def schema : Schema OwnerReference where
  name := "OwnerReference"
  start := ⟨.agent, "", "", false⟩
  fields := [
    .of "kind" .refused Kind.form (·.kind) fun r v => { r with kind := v },
    .of "name" .refused .text (·.name) fun r v => { r with name := v },
    .of "uid" .refused .text (·.uid) fun r v => { r with uid := v },
    .of "controller" .preset .flag (·.controller) fun r v => { r with controller := v }]

def form : Form OwnerReference := schema.form

/-- Whether the reference names a record by its kind and uid. -/
def names (r : OwnerReference) (kind : Kind) (uid : String) : Bool :=
  r.kind == kind && r.uid == uid

end OwnerReference

/-! ### Metadata -/

/-- What every record says about itself. -/
structure Metadata where
  name : String
  «namespace» : String := ""
  /-- The identity of one life of the record; given by the store to a record that has none. -/
  uid : String := ""
  /-- The number of writes; a write carries the version it was made from. -/
  resourceVersion : UInt64 := 0
  /-- The number of writes that changed the specification. -/
  generation : UInt64 := 0
  labels : Dictionary String String := ∅
  ownerReferences : List OwnerReference := []
  deriving DecidableEq, Inhabited

namespace Metadata

/-- The fields of metadata. -/
def schema : Schema Metadata where
  name := "ObjectMeta"
  start := { name := "" }
  fields := [
    .of "name" .refused .text (·.name) fun m v => { m with name := v },
    .of "namespace" .preset .text (·.namespace) fun m v => { m with «namespace» := v },
    .of "uid" .preset .text (·.uid) (fun m v => { m with uid := v }) String.isEmpty,
    .of "resourceVersion" .preset .count (·.resourceVersion)
      fun m v => { m with resourceVersion := v },
    .of "generation" .preset .count (·.generation) fun m v => { m with generation := v },
    .of "labels" .preset (.dictionary .text) (·.labels) (fun m v => { m with labels := v })
      Dictionary.isEmpty,
    .of "ownerReferences" .preset (.list OwnerReference.form) (·.ownerReferences)
      (fun m v => { m with ownerReferences := v }) List.isEmpty]

def form : Form Metadata := schema.form

/-- The key of the record. -/
def key (m : Metadata) : RecordKey := ⟨m.namespace, m.name⟩

/-- The reference to the record's controller, if it has one. -/
def controller? (m : Metadata) : Option OwnerReference := m.ownerReferences.find? (·.controller)

/-- Whether an owner reference names a uid; the empty uid names nothing. -/
def isOwnedBy (m : Metadata) (uid : String) : Bool :=
  !uid.isEmpty && m.ownerReferences.any fun r => r.uid == uid

/-- The label of every function that is derived from an agent; its value is the agent's name. -/
def agentLabel : String := "agent"

/-- Whether the record bears the label of derived functions. -/
def hasAgentLabel (m : Metadata) : Bool := m.labels.contains agentLabel

end Metadata

end ControlPlane
