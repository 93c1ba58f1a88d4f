import ControlPlane.Record.Metadata

/-!
Records: metadata, a specification of what is wanted and a status of what is. The store keeps both
as free-form values; the shape of a kind says how they are read as typed values.
-/

namespace ControlPlane

/-- A record with a specification and a status. -/
structure RecordOf (σ τ : Type) where
  metadata : Metadata
  spec : σ
  status : τ
  deriving DecidableEq, Inhabited

namespace RecordOf

variable {σ τ : Type}

/-- The key of a record. -/
def key (r : RecordOf σ τ) : RecordKey := r.metadata.key

/-- The fields of a record whose specification and status have forms and starting values. -/
def schema (spec : Form σ) (noSpec : σ) (droppedSpec : σ → Bool) (status : Form τ) (noStatus : τ)
    (droppedStatus : τ → Bool) (name : String) : Schema (RecordOf σ τ) where
  name
  start := ⟨{ name := "" }, noSpec, noStatus⟩
  fields := [
    .of "metadata" .refused Metadata.form (·.metadata) fun r v => { r with metadata := v },
    .of "spec" .preset spec (·.spec) (fun r v => { r with spec := v }) droppedSpec,
    .of "status" .preset status (·.status) (fun r v => { r with status := v }) droppedStatus]

end RecordOf

/-! ### Untyped records -/

/-- A record as the store keeps it. -/
abbrev Record := RecordOf Json Json

namespace Record

/-- An absent specification or status is null, and null is not written. -/
def schema : Schema Record :=
  RecordOf.schema .free .null Json.isNull .free .null Json.isNull "RawObject"

def form : Form Record := schema.form

/-- Whether two records are the same, their free-form values compared as values. -/
def same (a b : Record) : Bool :=
  a.metadata == b.metadata && a.spec == b.spec && a.status == b.status

end Record

/-! ### Typed records -/

/-- The shape of the records of a kind: the types of their specification and status. -/
class RecordShape (σ : Type) (τ : outParam Type) where
  kind : Kind
  spec : Schema σ
  status : Form τ
  /-- The status before one is written. -/
  noStatus : τ

namespace RecordOf

variable {σ τ : Type} [shape : RecordShape σ τ]

/-- The form of the typed records of a kind. -/
def form : Form (RecordOf σ τ) :=
  (schema shape.spec.form shape.spec.start (fun _ => false) shape.status shape.noStatus
    (fun _ => false) "Object").form

/-- A record that has not been stored. -/
def fresh (metadata : Metadata) (spec : σ) : RecordOf σ τ := ⟨metadata, spec, shape.noStatus⟩

/-- The record as the store keeps it. -/
def untyped (r : RecordOf σ τ) : Record :=
  ⟨r.metadata, shape.spec.form.write .byKey r.spec, shape.status.write .byKey r.status⟩

/-- The record with its specification and status read; null stands for the starting value. -/
def ofUntyped (r : Record) : Except FormError (RecordOf σ τ) := do
  let spec ← if r.spec.isNull then pure shape.spec.start else shape.spec.read r.spec
  let status ← if r.status.isNull then pure shape.noStatus else shape.status.read r.status
  pure ⟨r.metadata, spec, status⟩

end RecordOf

end ControlPlane
