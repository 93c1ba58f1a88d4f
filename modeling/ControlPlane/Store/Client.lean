import ControlPlane.Store.Routine

/-!
The typed calls: records are written from and read as the typed values of their kind.
-/

namespace ControlPlane

namespace Client

variable {σ τ : Type} [shape : RecordShape σ τ]

/-- A stored record as a typed one. -/
def typed (r : Record) : Except StoreError (RecordOf σ τ) :=
  (RecordOf.ofUntyped r).mapError StoreError.serialization

/-- Gets the record at a key. -/
def get (σ : Type) {τ : Type} [shape : RecordShape σ τ] (key : RecordKey) :
    Attempt StoreError (RecordOf σ τ) := do
  let r ← Attempt.answer (.get shape.kind key)
  .ofExcept (typed r)

/-- Lists the records of a kind; one that is not of the form of the kind fails the listing. -/
def list (σ : Type) {τ : Type} [shape : RecordShape σ τ] (ns : Option String) :
    Attempt StoreError (List (RecordOf σ τ)) := do
  let rs ← Attempt.answer (.list shape.kind ns)
  .ofExcept (rs.mapM typed)

/-- Stores a new record. -/
def create (r : RecordOf σ τ) : Attempt StoreError (RecordOf σ τ) := do
  let stored ← Attempt.answer (.create shape.kind r.untyped)
  .ofExcept (typed stored)

/-- Writes the specification, the labels and the owners of a record. -/
def update (r : RecordOf σ τ) : Attempt StoreError (RecordOf σ τ) := do
  let stored ← Attempt.answer (.update shape.kind r.untyped)
  .ofExcept (typed stored)

/-- Writes the status of a record. -/
def updateStatus (r : RecordOf σ τ) : Attempt StoreError (RecordOf σ τ) := do
  let stored ← Attempt.answer (.updateStatus shape.kind r.untyped)
  .ofExcept (typed stored)

/-- Drops the record at a key and all that it owns. -/
def delete (σ : Type) {τ : Type} [shape : RecordShape σ τ] (key : RecordKey) :
    Attempt StoreError Unit :=
  Attempt.answer (.delete shape.kind key)

/-- Makes the stored record agree with a declared one: its specification and labels are written if
they differ. A record that is not stored yet is created, and its status written if it has one. -/
def apply (kind : Kind) (declared : Record) : Attempt StoreError Record := do
  match ← Attempt.outcome (.get kind declared.key) with
  | .ok current =>
    if current.spec == declared.spec && current.metadata.labels == declared.metadata.labels then
      pure current
    else
      Attempt.answer (.update kind { current with
        spec := declared.spec
        metadata := { current.metadata with labels := declared.metadata.labels } })
  | .error e =>
    if e.isNotFound then do
      let created ← Attempt.answer (.create kind declared)
      if declared.status.isNull then pure created
      else Attempt.answer (.updateStatus kind { created with status := declared.status })
    else throw e

end Client

end ControlPlane
