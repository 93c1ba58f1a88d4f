import ControlPlane.Proofs.Record.Faithful
import ControlPlane.Proofs.Store.Calls
import ControlPlane.Proofs.Store.Run

/-!
The typed view of a store: what a typed call reads (`Store.fetch`), which store call it makes
(`Client.get_run` and its siblings), and what is read back of a record that was written. Nothing
is said here about the specification of an agent, since no invocation writes one.
-/

namespace ControlPlane

/-! ### Reading the parts of a record -/

namespace RecordOf

variable {σ τ : Type} [shape : RecordShape σ τ]

/-- The specification that a record is read with. -/
def specOf (σ : Type) {τ : Type} [shape : RecordShape σ τ] (v : Json) : Except FormError σ :=
  if v.isNull then pure shape.spec.start else shape.spec.read v

/-- The status that a record is read with. -/
def statusOf (σ : Type) {τ : Type} [shape : RecordShape σ τ] (v : Json) : Except FormError τ :=
  if v.isNull then pure shape.noStatus else shape.status.read v

theorem ofUntyped_eq (r : Record) :
    ofUntyped (σ := σ) r = (do
      let spec ← specOf σ r.spec
      let status ← statusOf σ r.status
      .ok ⟨r.metadata, spec, status⟩) := by
  simp only [ofUntyped, specOf, statusOf]
  cases r.spec.isNull <;> cases r.status.isNull <;> rfl

theorem ofUntyped_eq_ok_iff {r : Record} {t : RecordOf σ τ} :
    ofUntyped r = .ok t ↔
      r.metadata = t.metadata ∧ specOf σ r.spec = .ok t.spec ∧ statusOf σ r.status = .ok t.status := by
  simp only [ofUntyped_eq, Outcome.bind_eq_ok_iff]
  constructor
  · rintro ⟨spec, readSpec, status, readStatus, eq⟩
    obtain rfl := Except.ok.inj eq
    exact ⟨rfl, readSpec, readStatus⟩
  · rintro ⟨metadata, readSpec, readStatus⟩
    exact ⟨t.spec, readSpec, t.status, readStatus, by rw [metadata]⟩

/-- What is written of a specification is read back. -/
theorem specOf_write (lawful : shape.spec.Lawful) (spec : σ) :
    specOf σ (shape.spec.form.write .byKey spec) = .ok spec := by
  rw [specOf, shape.spec.neverNull .byKey spec]
  exact lawful.faithful .byKey spec

/-- What is written of a status is read back. -/
theorem statusOf_write (faithful : shape.status.Faithful) (never : shape.status.NeverNull)
    (status : τ) : statusOf σ (shape.status.write .byKey status) = .ok status := by
  rw [statusOf, never .byKey status]
  exact faithful .byKey status

end RecordOf

namespace Client

variable {σ τ : Type} [shape : RecordShape σ τ]

theorem typed_eq_ok_iff {r : Record} {t : RecordOf σ τ} :
    typed r = .ok t ↔ r.metadata = t.metadata ∧ RecordOf.specOf σ r.spec = .ok t.spec ∧
      RecordOf.statusOf σ r.status = .ok t.status := by
  rw [typed, Outcome.mapError_eq_ok_iff, RecordOf.ofUntyped_eq_ok_iff]

/-- A record is read with the metadata it has. -/
theorem metadata_of_typed {r : Record} {t : RecordOf σ τ} (h : typed r = .ok t) :
    r.metadata = t.metadata :=
  (typed_eq_ok_iff.mp h).1

theorem key_of_typed {r : Record} {t : RecordOf σ τ} (h : typed r = .ok t) : r.key = t.key :=
  congrArg Metadata.key (metadata_of_typed h)

end Client

/-! ### Typed lookups -/

namespace Store

variable {σ τ κ : Type} [shape : RecordShape σ τ] [Address κ]

/-- What is read at a key: the record of the type's kind, with its parts read. -/
def fetch (s : Store κ) (σ : Type) {τ : Type} [shape : RecordShape σ τ] (key : RecordKey) :
    Except StoreError (RecordOf σ τ) :=
  (s.answer (.get shape.kind key)).1 >>= Client.typed

theorem answer_get (s : Store κ) (kind : Kind) (key : RecordKey) :
    s.answer (.get kind key) =
      ((s.find? kind key).elim (.error (.notFound kind key)) .ok, ⟨s, []⟩) := rfl

theorem fetch_of_find? {s : Store κ} {key : RecordKey} {r : Record}
    (found : s.find? shape.kind key = some r) : s.fetch σ key = Client.typed r := by
  simp [fetch, answer_get, found]

theorem fetch_of_absent {s : Store κ} {key : RecordKey} (absent : s.find? shape.kind key = none) :
    s.fetch σ key = .error (.notFound shape.kind key) := by
  simp [fetch, answer_get, absent]

theorem fetch_eq_ok_iff {s : Store κ} {key : RecordKey} {t : RecordOf σ τ} :
    s.fetch σ key = .ok t ↔ ∃ r, s.find? shape.kind key = some r ∧ Client.typed r = .ok t := by
  cases found : s.find? shape.kind key with
  | none => simp [fetch_of_absent found]
  | some r => simp [fetch_of_find? found]

/-- Only an absent record is told as one that is not found. -/
theorem fetch_notFound_iff {s : Store κ} {key : RecordKey} :
    (∃ e, s.fetch σ key = .error e ∧ e.isNotFound) ↔ s.find? shape.kind key = none := by
  cases found : s.find? shape.kind key with
  | none => simp [fetch_of_absent found, StoreError.isNotFound]
  | some r =>
    rw [fetch_of_find? found, Client.typed]
    cases RecordOf.ofUntyped (σ := σ) r <;> simp [StoreError.isNotFound]

/-- Stores that find the same record read the same. -/
theorem fetch_congr {s t : Store κ} {key : RecordKey}
    (h : t.find? shape.kind key = s.find? shape.kind key) : t.fetch σ key = s.fetch σ key := by
  simp only [fetch, answer_get, h]

/-- Stores with the same records are read alike. -/
theorem fetch_of_records {s t : Store κ} (same : t.records = s.records) (key : RecordKey) :
    t.fetch σ key = s.fetch σ key :=
  fetch_congr (find?_of_records same _ key)

/-- Two keys with one address read the same where there is a record. -/
theorem fetch_congr_key (s : Store κ) {a b : RecordKey}
    (h : Address.of (κ := κ) shape.kind a = Address.of shape.kind b) {t : RecordOf σ τ}
    (read : s.fetch σ b = .ok t) : s.fetch σ a = .ok t := by
  rw [fetch_eq_ok_iff] at read ⊢
  rwa [find?_congr s h]

/-- A typed record that is read is at the address of its own key. -/
theorem filed_fetch {s : Store κ} {key : RecordKey} {t : RecordOf σ τ}
    (h : s.fetch σ key = .ok t) :
    Address.of (κ := κ) shape.kind key = Address.of shape.kind t.key ∧
      Address.refusal? κ t.key = none := by
  obtain ⟨r, found, read⟩ := fetch_eq_ok_iff.mp h
  have filed := filed_find? found
  rwa [Client.key_of_typed read] at filed

theorem key_of_fetch {s : Store κ} {key : RecordKey} {t : RecordOf σ τ}
    (accepted : Address.refusal? κ key = none) (h : s.fetch σ key = .ok t) : t.key = key :=
  (Address.of_inj accepted (filed_fetch h).2 (filed_fetch h).1).symm

end Store

/-! ### The store calls of typed calls -/

namespace Client

variable {σ τ : Type} [shape : RecordShape σ τ]

theorem get_run (key : RecordKey) :
    (get σ key).run = .call (.get shape.kind key) fun o => .done (o >>= typed) := by
  show Routine.call _ _ = _
  congr 1
  funext o
  cases o <;> rfl

theorem create_run (r : RecordOf σ τ) :
    (create r).run = .call (.create shape.kind r.untyped) fun o => .done (o >>= typed) := by
  show Routine.call _ _ = _
  congr 1
  funext o
  cases o <;> rfl

theorem update_run (r : RecordOf σ τ) :
    (update r).run = .call (.update shape.kind r.untyped) fun o => .done (o >>= typed) := by
  show Routine.call _ _ = _
  congr 1
  funext o
  cases o <;> rfl

theorem updateStatus_run (r : RecordOf σ τ) :
    (updateStatus r).run =
      .call (.updateStatus shape.kind r.untyped) fun o => .done (o >>= typed) := by
  show Routine.call _ _ = _
  congr 1
  funext o
  cases o <;> rfl

theorem list_run (ns : Option String) :
    (list σ ns).run = .call (.list shape.kind ns) fun o => .done (o >>= fun rs => rs.mapM typed) := by
  rw [list, Attempt.answer_bind_run]
  congr 1
  funext o
  cases o <;> rfl

theorem readsOnly_list (ns : Option String) : (list σ ns).run.ReadsOnly := by
  rw [list_run]
  exact ⟨rfl, fun _ => trivial⟩

theorem endOn_list {κ : Type} [Address κ] (ns : Option String) (s : Store κ) :
    (list σ ns).endOn s = (s.select shape.kind ns).mapM typed := by
  rw [Attempt.endOn, list_run]
  rfl

/-- A typed listing has the keys of the records in it. -/
theorem keys_of_listed {records : List Record} {read : List (RecordOf σ τ)}
    (listed : records.mapM typed = .ok read) : read.map RecordOf.key = records.map RecordOf.key := by
  have pairs := Outcome.mapM_eq_ok_iff.mp listed
  clear listed
  induction pairs with
  | nil => rfl
  | cons typed _ ih => rw [List.map_cons, List.map_cons, ih, key_of_typed typed]

end Client

/-! ### Typed calls in front of other attempts -/

namespace Client

/-- A write of which only the success is told. -/
theorem write_bind_run {σ τ ε α : Type} {write : Attempt StoreError (RecordOf σ τ)} {c : Call}
    {g : c.Outcome → Except StoreError (RecordOf σ τ)}
    (once : write.run = .call c fun o => .done (g o)) (h : StoreError → ε) (a : α) :
    ((write.mapError h >>= fun _ => pure a : Attempt ε α)).run =
      .call c fun o => .done (((g o).mapError h).map fun _ => a) := by
  rw [Attempt.bind_run, Attempt.mapError_run, once]
  show Routine.call _ _ = _
  congr 1
  funext o
  simp only [Routine.bind]
  cases g o <;> rfl

variable {σ τ ε α β : Type} [shape : RecordShape σ τ]

/-- A lookup whose failure is looked at too. -/
theorem get_result_bind_run (key : RecordKey)
    (f : Except StoreError (RecordOf σ τ) → Attempt ε β) :
    ((get σ key).result >>= f).run =
      .call (.get shape.kind key) fun o => (f (o >>= typed)).run := by
  rw [Attempt.bind_run, Attempt.result_run, get_run]
  rfl

/-- A lookup whose failure ends the attempt. -/
theorem get_mapError_bind_run (g : StoreError → ε) (key : RecordKey)
    (f : RecordOf σ τ → Attempt ε β) :
    ((get σ key).mapError g >>= f).run =
      .call (.get shape.kind key) fun o =>
        match (o >>= typed : Except StoreError (RecordOf σ τ)) with
        | .ok r => (f r).run
        | .error e => .done (.error (g e)) := by
  rw [Attempt.bind_run, Attempt.mapError_run, get_run]
  show Routine.call _ _ = _
  congr 1
  funext o
  simp only [Routine.bind]
  generalize (o >>= typed : Except StoreError (RecordOf σ τ)) = read
  cases read <;> rfl

end Client

/-! ### Reading back what was written -/

namespace Client

/-- A function that was created is read back with its first versions. -/
theorem typed_admitted (f : FunctionRecord) (uid : String) :
    typed (f.untyped.admitted uid) = .ok (⟨(f.untyped.admitted uid).metadata, f.spec, f.status⟩ :
      FunctionRecord) :=
  typed_eq_ok_iff.mpr ⟨rfl, RecordOf.specOf_write FunctionSpec.lawful f.spec,
    RecordOf.statusOf_write FunctionStatus.lawful.faithful (Schema.neverNull _) f.status⟩

/-- A function that was written is read back with the status it had. -/
theorem typed_updated {current : Record} {stored : FunctionRecord}
    (read : typed current = .ok stored) (f : FunctionRecord) :
    typed (Record.updated current f.untyped) =
      .ok (⟨(Record.updated current f.untyped).metadata, f.spec, stored.status⟩ :
        FunctionRecord) :=
  typed_eq_ok_iff.mpr ⟨rfl, RecordOf.specOf_write FunctionSpec.lawful f.spec,
    (typed_eq_ok_iff.mp read).2.2⟩

/-- An agent whose status was written is read back with the specification it had. -/
theorem typed_statusUpdated {current : Record} {stored : AgentRecord}
    (read : typed current = .ok stored) (a : AgentRecord) :
    typed (Record.statusUpdated current a.untyped) =
      .ok (⟨(Record.statusUpdated current a.untyped).metadata, stored.spec, a.status⟩ :
        AgentRecord) :=
  typed_eq_ok_iff.mpr ⟨rfl, (typed_eq_ok_iff.mp read).2.1,
    RecordOf.statusOf_write AgentStatus.lawful.faithful (Schema.neverNull _) a.status⟩

end Client

end ControlPlane
