import ControlPlane.Manifest.Directory
import ControlPlane.Proofs.Json.Sameness

/-!
Manifests that were declared: those that a text or a tree of files is read as. Each of them comes
from a document (`Manifest.Declared.document`), is of the form of its kind
(`Manifest.Declared.conforms`) and has a specification that is the same as itself
(`Manifest.Declared.spec_same`).
-/

namespace ControlPlane

/-! ### What is read of finite values -/

theorem Field.of_read_eq_ok_iff {α β : Type} {name : String} {absence : Absence} {form : Form β}
    {get : α → β} {set : α → β → α} {dropped : β → Bool} {v : Json} {a b : α} :
    (Field.of name absence form get set dropped).read v a = .ok b ↔
      ∃ w, form.read v = .ok w ∧ set a w = b :=
  Outcome.map_eq_ok_iff

/-- What holds of a record at its start, and is kept whenever a field reads a finite value, holds of
what is read of finite values. -/
theorem Schema.kept_of_read {α : Type} {s : Schema α} {P : α → Prop} (start : P s.start)
    (kept : ∀ f ∈ s.fields, ∀ v a b, v.isFinite = true → P a → f.read v a = .ok b → P b)
    {j : Json} (finite : j.isFinite = true) {a : α} (read : s.read j = .ok a) : P a := by
  have entries : ∀ (l : List (String × Json)) (a b : α), (∀ e ∈ l, e.2.isFinite = true) → P a →
      s.readEntries l a = .ok b → P b := by
    intro l
    induction l with
    | nil =>
      rintro a b - holds h
      obtain rfl := Except.ok.inj h
      exact holds
    | cons e rest ih =>
      intro a b finite holds h
      obtain ⟨first, others⟩ := List.forall_mem_cons.mp finite
      rw [Schema.readEntries] at h
      split at h
      · rename_i f found
        obtain ⟨c, one, next⟩ := Outcome.bind_eq_ok_iff.mp h
        exact ih c b others (kept f (List.mem_of_find?_eq_some found) _ a c first holds one) next
      · exact ih a b others holds h
  have elements : ∀ (fields : List (Field α)) (l : List Json) (index : Nat) (a b : α),
      (∀ f ∈ fields, f ∈ s.fields) → (∀ v ∈ l, v.isFinite = true) → P a →
      s.readElements fields l index a = .ok b → P b := by
    intro fields
    induction fields with
    | nil =>
      intro l index a b _ _ holds h
      cases l with
      | nil =>
        obtain rfl := Except.ok.inj h
        exact holds
      | cons v rest => cases h
    | cons f fields ih =>
      intro l index a b sub finite holds h
      have tail : ∀ g ∈ fields, g ∈ s.fields := fun g mem => sub g (List.mem_cons_of_mem _ mem)
      cases l with
      | nil =>
        rw [Schema.readElements] at h
        split at h
        · exact ih [] index a b tail finite holds h
        · cases h
      | cons v rest =>
        obtain ⟨first, others⟩ := List.forall_mem_cons.mp finite
        rw [Schema.readElements] at h
        obtain ⟨c, one, next⟩ := Outcome.bind_eq_ok_iff.mp h
        have holds := kept f (sub f List.mem_cons_self) v a c first holds one
        exact ih rest _ c b tail others holds next
  cases j with
  | obj fields =>
    rw [Json.isFinite, Json.areFiniteFields_iff] at finite
    obtain ⟨b, done, h⟩ := Outcome.bind_eq_ok_iff.mp read
    have holds := entries fields _ b finite start done
    split at h
    · cases h
    · obtain rfl := Except.ok.inj h
      exact holds
  | arr items =>
    rw [Json.isFinite, Json.areFinite_iff] at finite
    exact elements s.fields items 0 _ a (fun _ mem => mem) finite start read
  | null | bool | int | float | str => cases read

namespace Manifest

/-- The specification that a finite document declares is finite. -/
theorem Declaration.isFinite_spec {j : Json} (finite : j.isFinite = true) {d : Declaration}
    (read : Declaration.schema.read j = .ok d) : d.record.spec.isFinite = true := by
  refine Schema.kept_of_read (P := fun d => d.record.spec.isFinite = true) rfl ?_ finite read
  intro f mem v a b finite holds h
  simp only [Declaration.schema, List.mem_cons, List.not_mem_nil, or_false] at mem
  rcases mem with rfl | rfl | rfl | rfl
  · obtain ⟨w, -, rfl⟩ := Field.of_read_eq_ok_iff.mp h
    exact holds
  · obtain ⟨w, -, rfl⟩ := Field.of_read_eq_ok_iff.mp h
    exact holds
  · obtain ⟨w, isRead, rfl⟩ := Field.of_read_eq_ok_iff.mp h
    obtain rfl := Except.ok.inj isRead
    exact finite
  · obtain ⟨w, -, rfl⟩ := Field.of_read_eq_ok_iff.mp h
    exact holds

/-! ### Declared manifests -/

/-- Manifests that a text declares, or the files of a tree. -/
inductive Declared : List Manifest → Prop where
  | ofText {source text : String} {ms : List Manifest} (read : ofText source text = .ok ms) :
      Declared ms
  | load {files : FileSystem} {path : String} {ms : List Manifest}
      (read : load files path = .ok ms) : Declared ms

theorem mem_of_ofDocuments {source : String} {documents : List (Except Yaml.Fault Yaml.Value)}
    {ms : List Manifest} (read : ofDocuments source documents = .ok ms) {m : Manifest}
    (mem : m ∈ ms) : ∃ v, ofDocument source v = .ok m := by
  induction documents generalizing ms with
  | nil =>
    obtain rfl := Except.ok.inj read
    cases mem
  | cons d rest ih =>
    cases d with
    | error e => cases read
    | ok v =>
      rw [ofDocuments] at read
      split at read
      · exact ih read mem
      · obtain ⟨first, one, read⟩ := Outcome.bind_eq_ok_iff.mp read
        obtain ⟨others, tail, read⟩ := Outcome.bind_eq_ok_iff.mp read
        obtain rfl := Except.ok.inj read
        rcases List.mem_cons.mp mem with rfl | mem
        · exact ⟨v, one⟩
        · exact ih tail mem

variable {ms : List Manifest} {m : Manifest}

/-- Every manifest comes from a document. -/
theorem Declared.document (declared : Declared ms) (mem : m ∈ ms) :
    ∃ source v, ofDocument source v = .ok m := by
  cases declared with
  | @ofText source text _ read => exact ⟨source, mem_of_ofDocuments read mem⟩
  | load read =>
    obtain ⟨t, -, read⟩ := Outcome.bind_eq_ok_iff.mp read
    obtain ⟨lists, each, eq⟩ := Outcome.bind_eq_ok_iff.mp read
    obtain rfl := Except.ok.inj eq
    obtain ⟨l, isList, mem⟩ := List.mem_flatten.mp mem
    obtain ⟨f, -, read⟩ := Outcome.exists_of_mem_mapM each isList
    rw [ofFile] at read
    split at read
    · exact ⟨f.1, mem_of_ofDocuments (Outcome.mapError_eq_ok_iff.mp read) mem⟩
    · cases read

/-- What a document that declares a record told. -/
theorem of_ofDocument {source : String} {v : Yaml.Value} (read : ofDocument source v = .ok m) :
    ∃ j d, v.toJson = .ok j ∧ Declaration.schema.read j = .ok d ∧
      m.record.conforms m.kind = .ok () ∧ m.record = placed d.record := by
  rw [ofDocument] at read
  obtain ⟨j, stands, read⟩ := Outcome.bind_eq_ok_iff.mp read
  obtain ⟨d, told, read⟩ := Outcome.bind_eq_ok_iff.mp read
  have stands := Outcome.mapError_eq_ok_iff.mp stands
  have told := Outcome.mapError_eq_ok_iff.mp told
  split at read
  · cases read
  · split at read
    · cases read
    · obtain ⟨⟨⟩, conforms, read⟩ := Outcome.bind_eq_ok_iff.mp read
      obtain rfl := Except.ok.inj read
      exact ⟨j, d, stands, told, Outcome.mapError_eq_ok_iff.mp conforms, rfl⟩

theorem spec_placed (r : Record) : (placed r).spec = r.spec := by
  unfold placed
  split <;> rfl

/-- A declared record is of the form of its kind. -/
theorem Declared.conforms (declared : Declared ms) (mem : m ∈ ms) :
    m.record.conforms m.kind = .ok () := by
  obtain ⟨source, v, read⟩ := declared.document mem
  obtain ⟨j, d, -, -, conforms, -⟩ := of_ofDocument read
  exact conforms

/-- A declared specification is the same as itself. -/
theorem Declared.spec_same (declared : Declared ms) (mem : m ∈ ms) :
    (m.record.spec == m.record.spec) = true := by
  obtain ⟨source, v, read⟩ := declared.document mem
  obtain ⟨j, d, stands, told, -, eq⟩ := of_ofDocument read
  rw [eq, spec_placed]
  exact Json.same_self (Declaration.isFinite_spec (Yaml.Value.isFinite_of_toJson stands) told)

end Manifest

end ControlPlane
