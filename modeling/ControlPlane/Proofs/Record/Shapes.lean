import ControlPlane.Manifest.Basic
import ControlPlane.Proofs.Store.Typed

/-!
The shapes of the three kinds are lawful: what is written of a typed record is read back
(`LawfulShape`). So a record is of the form of its kind exactly if its specification and its status
are each read by themselves (`Record.conforms_iff`), and every typed record is when it is written
untyped (`RecordOf.conforms_untyped`).
-/

namespace ControlPlane

/-! ### Agents and packages -/

theorem ToolReference.lawful : ToolReference.schema.Lawful where
  distinct := by simp [ToolReference.schema, Field.of]
  independent := by
    simp only [ToolReference.schema, List.pairwise_cons, List.mem_cons, forall_eq_or_imp,
      List.not_mem_nil, false_implies, implies_true, List.Pairwise.nil, and_true]
    exact Field.independent_of fun _ _ _ => rfl
  filled _ _ :=
    .cons (Form.option_faithful Form.text_faithful fun _ _ => rfl) nofun (fun _ => rfl)
      Option.isNone_iff_eq_none.mp <|
    .cons Form.text_faithful (fun _ => rfl) (fun _ => rfl) nofun <| .nil _

theorem ModelConfig.lawful : ModelConfig.schema.Lawful where
  distinct := by simp [ModelConfig.schema, Field.of]
  independent := by
    simp only [ModelConfig.schema, List.pairwise_cons, List.mem_cons, forall_eq_or_imp,
      List.not_mem_nil, false_implies, implies_true, List.Pairwise.nil, and_true]
    exact Field.independent_of fun _ _ _ => rfl
  filled _ _ :=
    .cons Form.text_faithful (fun _ => rfl) (fun _ => rfl) nofun <|
    .cons Form.text_faithful nofun (fun _ => rfl) String.isEmpty_iff.mp <| .nil _

theorem PostProcess.lawful : PostProcess.schema.Lawful where
  distinct := by simp [PostProcess.schema, Field.of]
  independent := by simp [PostProcess.schema]
  filled _ _ := .cons Form.text_faithful nofun (fun _ => rfl) String.isEmpty_iff.mp (.nil _)

theorem AgentSpec.lawful : AgentSpec.schema.Lawful where
  distinct := by simp [AgentSpec.schema, Field.of]
  independent := by
    simp only [AgentSpec.schema, List.pairwise_cons, List.mem_cons, forall_eq_or_imp,
      List.not_mem_nil, false_implies, implies_true, List.Pairwise.nil, and_true]
    and_intros
    all_goals exact Field.independent_of fun _ _ _ => rfl
  filled _ _ :=
    .cons Form.text_faithful nofun (fun _ => rfl) String.isEmpty_iff.mp <|
    .cons Form.text_faithful nofun (fun _ => rfl) nofun <|
    .cons Form.text_faithful nofun (fun _ => rfl) nofun <|
    .cons ModelConfig.lawful.faithful nofun (fun _ => rfl) nofun <|
    .cons Form.text_faithful nofun (fun _ => rfl) String.isEmpty_iff.mp <|
    .cons (Form.list_faithful Source.lawful.faithful) nofun (fun _ => rfl) List.isEmpty_iff.mp <|
    .cons Source.option_faithful nofun (fun _ => rfl) Option.isNone_iff_eq_none.mp <|
    .cons Source.option_faithful nofun (fun _ => rfl) Option.isNone_iff_eq_none.mp <|
    .cons Sink.option_faithful nofun (fun _ => rfl) Option.isNone_iff_eq_none.mp <|
    .cons (Form.list_faithful ToolReference.lawful.faithful) nofun (fun _ => rfl)
      List.isEmpty_iff.mp <|
    .cons (Form.option_faithful PostProcess.lawful.faithful (Schema.neverNull _)) nofun
      (fun _ => rfl) Option.isNone_iff_eq_none.mp <| .nil _

theorem Module.lawful : Module.schema.Lawful where
  distinct := by simp [Module.schema, Field.of]
  independent := by
    simp only [Module.schema, List.pairwise_cons, List.mem_cons, forall_eq_or_imp,
      List.not_mem_nil, false_implies, implies_true, List.Pairwise.nil, and_true]
    and_intros
    all_goals exact Field.independent_of fun _ _ _ => rfl
  filled _ _ :=
    .cons Form.text_faithful nofun (fun _ => rfl) String.isEmpty_iff.mp <|
    .cons Form.text_faithful nofun (fun _ => rfl) nofun <|
    .cons Form.text_faithful nofun (fun _ => rfl) String.isEmpty_iff.mp <|
    .cons Form.text_faithful nofun (fun _ => rfl) String.isEmpty_iff.mp <| .nil _

theorem PackageSpec.lawful : PackageSpec.schema.Lawful where
  distinct := by simp [PackageSpec.schema, Field.of]
  independent := by
    simp only [PackageSpec.schema, List.pairwise_cons, List.mem_cons, forall_eq_or_imp,
      List.not_mem_nil, false_implies, implies_true, List.Pairwise.nil, and_true]
    and_intros
    all_goals exact Field.independent_of fun _ _ _ => rfl
  filled _ _ :=
    .cons Form.text_faithful nofun (fun _ => rfl) String.isEmpty_iff.mp <|
    .cons Form.text_faithful nofun (fun _ => rfl) String.isEmpty_iff.mp <|
    .cons (Form.dictionary_faithful Module.lawful.faithful) nofun (fun _ => rfl) nofun <| .nil _

/-! ### What the kinds read -/

/-- A value is read as the specification of a kind. -/
def Kind.ReadsSpec (v : Json) : Kind → Prop
  | .agent => ∃ s, RecordOf.specOf AgentSpec v = .ok s
  | .function => ∃ s, RecordOf.specOf FunctionSpec v = .ok s
  | .package => ∃ s, RecordOf.specOf PackageSpec v = .ok s

/-- A value is read as the status of a kind. -/
def Kind.ReadsStatus (v : Json) : Kind → Prop
  | .agent => ∃ t, RecordOf.statusOf AgentSpec v = .ok t
  | .function => ∃ t, RecordOf.statusOf FunctionSpec v = .ok t
  | .package => ∃ t, RecordOf.statusOf PackageSpec v = .ok t

/-- What is written of a typed record is read back, and the kind tells the type of the record. -/
class LawfulShape (σ : Type) (τ : outParam Type) [shape : RecordShape σ τ] : Prop where
  spec : shape.spec.Lawful
  status : ∀ t : τ, RecordOf.statusOf σ (shape.status.write .byKey t) = .ok t
  readsSpec_iff : ∀ v, shape.kind.ReadsSpec v ↔ ∃ s, RecordOf.specOf σ v = .ok s
  readsStatus_iff : ∀ v, shape.kind.ReadsStatus v ↔ ∃ t, RecordOf.statusOf σ v = .ok t

instance : LawfulShape AgentSpec AgentStatus where
  spec := AgentSpec.lawful
  status := RecordOf.statusOf_write AgentStatus.lawful.faithful (Schema.neverNull _)
  readsSpec_iff _ := .rfl
  readsStatus_iff _ := .rfl

instance : LawfulShape FunctionSpec FunctionStatus where
  spec := FunctionSpec.lawful
  status := RecordOf.statusOf_write FunctionStatus.lawful.faithful (Schema.neverNull _)
  readsSpec_iff _ := .rfl
  readsStatus_iff _ := .rfl

instance : LawfulShape PackageSpec Unit where
  spec := PackageSpec.lawful
  status _ := rfl
  readsSpec_iff _ := .rfl
  readsStatus_iff _ := .rfl

namespace RecordOf

variable {σ τ : Type} [shape : RecordShape σ τ]

/-- A record is read if its specification and its status are. -/
theorem exists_ofUntyped_iff {r : Record} : (∃ t : RecordOf σ τ, ofUntyped r = .ok t) ↔
    (∃ s, specOf σ r.spec = .ok s) ∧ ∃ t, statusOf σ r.status = .ok t := by
  simp only [ofUntyped_eq_ok_iff]
  constructor
  · rintro ⟨t, -, spec, status⟩
    exact ⟨⟨_, spec⟩, ⟨_, status⟩⟩
  · rintro ⟨⟨s, spec⟩, ⟨t, status⟩⟩
    exact ⟨⟨r.metadata, s, t⟩, rfl, spec, status⟩

end RecordOf

/-- A record is of the form of a kind exactly if its specification and its status are read. -/
theorem Record.conforms_iff {kind : Kind} {r : Record} :
    r.conforms kind = .ok () ↔ kind.ReadsSpec r.spec ∧ kind.ReadsStatus r.status := by
  cases kind <;>
    simp only [conforms, Outcome.map_eq_ok_iff, and_true, RecordOf.exists_ofUntyped_iff,
      Kind.ReadsSpec, Kind.ReadsStatus]

section

variable {σ τ : Type} [shape : RecordShape σ τ] [lawful : LawfulShape σ τ]

/-- What is written of a specification is read as one. -/
theorem RecordOf.readsSpec_untyped (t : RecordOf σ τ) : shape.kind.ReadsSpec t.untyped.spec :=
  (lawful.readsSpec_iff _).mpr ⟨t.spec, specOf_write lawful.spec t.spec⟩

/-- What is written of a status is read as one. -/
theorem RecordOf.readsStatus_untyped (t : RecordOf σ τ) :
    shape.kind.ReadsStatus t.untyped.status :=
  (lawful.readsStatus_iff _).mpr ⟨t.status, lawful.status t.status⟩

/-- A typed record is of the form of its kind when it is written untyped. -/
theorem RecordOf.conforms_untyped (t : RecordOf σ τ) :
    t.untyped.conforms shape.kind = .ok () :=
  Record.conforms_iff.mpr ⟨t.readsSpec_untyped, t.readsStatus_untyped⟩

/-- A record of the form of its kind is read as a typed one. -/
theorem Client.typed_of_conforms {r : Record} (conforms : r.conforms shape.kind = .ok ()) :
    ∃ t : RecordOf σ τ, typed r = .ok t := by
  obtain ⟨spec, status⟩ := Record.conforms_iff.mp conforms
  obtain ⟨t, read⟩ := RecordOf.exists_ofUntyped_iff.mpr
    ⟨(lawful.readsSpec_iff _).mp spec, (lawful.readsStatus_iff _).mp status⟩
  exact ⟨t, Outcome.mapError_eq_ok_iff.mpr read⟩

end

end ControlPlane
