import ControlPlane.Record.Basic
import ControlPlane.Store.Error

/-!
Admission: what becomes of a record that is written. A new record is given an identity and its
first versions; a write must carry the version it was made from.
-/

namespace ControlPlane

/-! ### Identities -/

/-- The identities that a store gives to records which come without one. -/
structure UidSupply where
  text : Nat → String
  /-- How many were given. -/
  drawn : Nat := 0

/-- The identity for a record, and the supply after it. -/
def UidSupply.identify (s : UidSupply) (uid : String) : String × UidSupply :=
  if uid.isEmpty then (s.text s.drawn, { s with drawn := s.drawn + 1 }) else (uid, s)

/-! ### Records as they are stored -/

namespace Record

/-- A new record under an identity. -/
def admitted (r : Record) (uid : String) : Record :=
  { r with metadata := { r.metadata with uid, resourceVersion := 1, generation := 1 } }

/-- Refuses a write that was not made from the stored version. -/
def checkVersion (kind : Kind) (current incoming : Record) : Except StoreError Unit :=
  if incoming.metadata.resourceVersion = current.metadata.resourceVersion then .ok ()
  else .error (.conflict kind current.key incoming.metadata.resourceVersion
    current.metadata.resourceVersion)

/-- The record after a write of its specification, labels and owners. -/
def updated (current incoming : Record) : Record where
  metadata := { current.metadata with
    labels := incoming.metadata.labels
    ownerReferences := incoming.metadata.ownerReferences
    resourceVersion := current.metadata.resourceVersion + 1
    generation :=
      if incoming.spec == current.spec then current.metadata.generation
      else current.metadata.generation + 1 }
  spec := incoming.spec
  status := current.status

/-- The record after a write of its status. -/
def statusUpdated (current incoming : Record) : Record where
  metadata := { current.metadata with resourceVersion := current.metadata.resourceVersion + 1 }
  spec := current.spec
  status := incoming.status

end Record

end ControlPlane
