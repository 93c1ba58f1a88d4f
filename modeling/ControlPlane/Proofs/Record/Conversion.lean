import ControlPlane.Proofs.Record.Shapes
import ControlPlane.Proofs.Store.Calls

/-!
Conversion between typed and untyped records. The document of a typed record is read as its untyped
record (`RecordOf.read_form_write`), and the document of an untyped record is read as a typed one
exactly as its specification and status are (`Record.read_form_write`). So nothing is lost on the
way there and back, nor in a store that a typed record is created in (`RecordOf.lossless`).
-/

namespace ControlPlane

/-! ### Documents of records -/

namespace RecordOf

/-- The document of a record, with its specification and its status if they are written. -/
def document (metadata : Json) (spec status : Option Json) : Json :=
  .obj (("metadata", metadata) :: (spec.toList.map ("spec", ·) ++ status.toList.map ("status", ·)))

section

variable {σ τ : Type} (spec : Form σ) (noSpec : σ) (droppedSpec : σ → Bool) (status : Form τ)
  (noStatus : τ) (droppedStatus : τ → Bool) (name : String)

/-- A record is written as its document. -/
theorem schema_write (r : RecordOf σ τ) :
    (schema spec noSpec droppedSpec status noStatus droppedStatus name).form.write .byKey r =
      document (Metadata.form.write .byKey r.metadata)
        (if droppedSpec r.spec then none else some (spec.write .byKey r.spec))
        (if droppedStatus r.status then none else some (status.write .byKey r.status)) := by
  have ms : compare "spec" "metadata" = .gt := by decide
  have mt : compare "status" "metadata" = .gt := by decide
  have st : compare "status" "spec" = .gt := by decide
  cases dropsSpec : droppedSpec r.spec <;> cases dropsStatus : droppedStatus r.status <;>
    simp [Schema.form, Schema.writeFields, schema, Field.of, document, dropsSpec, dropsStatus,
      Entries.ofList, Entries.insert, ms, mt, st]

/-- A document is read part by part; a part that was not written is the one to start with. -/
theorem schema_read_document (m : Json) (s t : Option Json) :
    (schema spec noSpec droppedSpec status noStatus droppedStatus name).form.read
        (document m s t) = (do
      let metadata ← Metadata.form.read m
      let spec ← s.elim (.ok noSpec) spec.read
      let status ← t.elim (.ok noStatus) status.read
      .ok ⟨metadata, spec, status⟩) := by
  cases s <;> cases t <;>
    simp [Schema.form, Schema.read, Schema.readEntries, Schema.missing?, schema, Field.of, document,
      Outcome.map_bind]

end

/-! ### Typed and untyped records -/

section

variable {σ τ : Type} [shape : RecordShape σ τ]

/-- The document of a typed record is read as its untyped record. -/
theorem read_form_write (t : RecordOf σ τ) :
    Record.form.read ((form (σ := σ)).write .byKey t) = .ok t.untyped := by
  have metadata : Metadata.form.read (Metadata.form.write .byKey t.metadata) = .ok t.metadata :=
    Metadata.lawful.faithful .byKey t.metadata
  rw [form, schema_write, Record.form, Record.schema, schema_read_document, metadata]
  rfl

/-- The document of an untyped record is read as a typed one part by part: a part that is null was
not written, and stands for the one to start with. -/
theorem form_read_write (r : Record) :
    (form (σ := σ)).read (Record.form.write .byKey r) = ofUntyped r := by
  have metadata : Metadata.form.read (Metadata.form.write .byKey r.metadata) = .ok r.metadata :=
    Metadata.lawful.faithful .byKey r.metadata
  rw [form, Record.form, Record.schema, schema_write, schema_read_document, metadata, ofUntyped_eq,
    specOf, statusOf]
  cases r.spec.isNull <;> cases r.status.isNull <;> rfl

variable [lawful : LawfulShape σ τ]

/-- What is written of a typed record is read back as it was. -/
theorem ofUntyped_untyped (t : RecordOf σ τ) : ofUntyped t.untyped = .ok t :=
  ofUntyped_eq_ok_iff.mpr ⟨rfl, specOf_write lawful.spec t.spec, lawful.status t.status⟩

end

end RecordOf

/-! ### Typed records in a store -/

/-- A typed record under an identity, with its first versions. -/
def RecordOf.begun {σ τ : Type} (t : RecordOf σ τ) (uid : String) : RecordOf σ τ :=
  { t with metadata := { t.metadata with uid, resourceVersion := 1, generation := 1 } }

namespace Client

variable {σ τ κ : Type} [shape : RecordShape σ τ] [Address κ] {s : Store κ} {t : RecordOf σ τ}

/-- A lookup reads what is fetched, and changes nothing. -/
theorem get_runOn (key : RecordKey) (s : Store κ) :
    (get σ key).run.runOn s = (s.fetch σ key, ⟨s, []⟩) := by
  rw [get_run, Routine.runOn_call, Routine.runOn_done, Written.after, Store.answer_get]
  rfl

/-- A typed record is not created where there is one already. -/
theorem create_runOn_of_found {current : Record} (accepted : Address.refusal? κ t.key = none)
    (found : s.find? shape.kind t.key = some current) :
    (create t).run.runOn s = (.error (.alreadyExists shape.kind t.key),
      ⟨s.giving (s.uidsAfterRefusal t.untyped), []⟩) := by
  have failed := Store.answer_create_of_found (r := t.untyped) accepted found
  rw [create_run, Routine.runOn_call, failed]
  rfl

variable [lawful : LawfulShape σ τ]

theorem typed_untyped_admitted (t : RecordOf σ τ) (uid : String) :
    typed (t.untyped.admitted uid) = .ok (t.begun uid) :=
  typed_eq_ok_iff.mpr ⟨rfl, RecordOf.specOf_write lawful.spec t.spec, lawful.status t.status⟩

/-- A typed record is created where none is, under the identity that is drawn for it, and read back
as it was created. -/
theorem create_runOn_of_absent (accepted : Address.refusal? κ t.key = none)
    (absent : s.find? shape.kind t.key = none) :
    ∃ w, (create t).run.runOn s = (.ok (t.begun (s.uids.identify t.metadata.uid).1), w) ∧
      w.store.fetch σ t.key = .ok (t.begun (s.uids.identify t.metadata.uid).1) := by
  have created := Store.answer_create_eq (r := t.untyped) accepted absent
  have back := typed_untyped_admitted t (s.uids.identify t.metadata.uid).1
  refine ⟨(s.answer (.create shape.kind t.untyped)).2, ?_, ?_⟩
  · rw [create_run, Routine.runOn_call, Routine.runOn_done, created]
    exact Prod.ext back rfl
  · rw [created]
    exact (Store.fetch_of_find? (Store.find?_put _ _ _ accepted)).trans back

end Client

/-! ### Kinds -/

/-- The conversions of the records of a kind lose nothing. -/
structure Lossless (σ : Type) {τ : Type} [shape : RecordShape σ τ] : Prop where
  /-- The document of a typed record is read as its untyped record. -/
  written : ∀ t : RecordOf σ τ, Record.form.read (RecordOf.form.write .byKey t) = .ok t.untyped
  /-- The document of an untyped record is read as a typed one just as its parts are. -/
  told : ∀ r : Record,
    (RecordOf.form (σ := σ)).read (Record.form.write .byKey r) = RecordOf.ofUntyped r
  back : ∀ t : RecordOf σ τ, RecordOf.ofUntyped t.untyped = .ok t
  again : ∀ (r : Record) (t : RecordOf σ τ), RecordOf.ofUntyped r = .ok t →
    RecordOf.ofUntyped t.untyped = .ok t
  /-- A record is created where none is. -/
  creatable : ∀ (s : Store RecordId) (t : RecordOf σ τ),
    (∃ c w, (Client.create t).run.runOn s = (.ok c, w)) ↔ s.find? shape.kind t.key = none
  /-- What was created is read with its identity and its first versions, and as it was else. -/
  created : ∀ (s : Store RecordId) (t c : RecordOf σ τ) (w : Written RecordId),
    (Client.create t).run.runOn s = (.ok c, w) →
      c = t.begun (s.uids.identify t.metadata.uid).1 ∧
        (Client.get σ t.key).run.runOn w.store = (.ok c, ⟨w.store, []⟩)

/-- The conversions of a kind whose shape is lawful lose nothing. -/
theorem LawfulShape.lossless {σ τ : Type} [shape : RecordShape σ τ] [LawfulShape σ τ] :
    Lossless σ where
  written := RecordOf.read_form_write
  told := RecordOf.form_read_write
  back := RecordOf.ofUntyped_untyped
  again _ t _ := RecordOf.ofUntyped_untyped t
  creatable s t := by
    constructor
    · rintro ⟨c, w, done⟩
      refine Option.eq_none_iff_forall_not_mem.mpr fun current found => ?_
      rw [Client.create_runOn_of_found rfl found] at done
      cases (Prod.mk.inj done).1
    · intro absent
      obtain ⟨w, done, -⟩ := Client.create_runOn_of_absent (t := t) rfl absent
      exact ⟨_, w, done⟩
  created s t c w done := by
    cases found : s.find? shape.kind t.key with
    | some current =>
      rw [Client.create_runOn_of_found rfl found] at done
      cases (Prod.mk.inj done).1
    | none =>
      obtain ⟨w', done', read⟩ := Client.create_runOn_of_absent (t := t) rfl found
      obtain ⟨same, rfl⟩ := Prod.mk.inj (done'.symm.trans done)
      obtain rfl := Except.ok.inj same
      exact ⟨rfl, (Client.get_runOn t.key w'.store).trans (by rw [read])⟩

/-- Agents, functions and packages are converted without loss. -/
theorem records_lossless : Lossless AgentSpec ∧ Lossless FunctionSpec ∧ Lossless PackageSpec :=
  ⟨LawfulShape.lossless, LawfulShape.lossless, LawfulShape.lossless⟩

end ControlPlane
