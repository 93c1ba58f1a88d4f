import ControlPlane.Proofs.Form.Faithful
import ControlPlane.Record.Agent

/-!
The record types that an invocation writes are lawful: what is written of a function and of an
agent's status is read back as it was. So is the type of the records that a store keeps. Main
statements: `FunctionSpec.lawful`, `FunctionStatus.lawful`, `AgentStatus.lawful`, `Record.lawful`,
`FunctionRecord.form_faithful`.
-/

namespace ControlPlane

/-! ### Channels -/

theorem Topic.lawful (name : String) : (Topic.schema name).Lawful where
  distinct := by simp [Topic.schema, Field.of]
  independent := by simp [Topic.schema]
  filled _ _ := .cons Form.text_faithful nofun (fun _ => rfl) nofun (.nil _)

theorem Source.lawful : Source.schema.Lawful where
  distinct := by simp [Source.schema, Field.of]
  independent := by simp [Source.schema]
  filled _ _ := .cons (Form.option_faithful (Topic.lawful _).faithful (Schema.neverNull _)) nofun
    (fun _ => rfl) Option.isNone_iff_eq_none.mp (.nil _)

theorem Sink.lawful : Sink.schema.Lawful where
  distinct := by simp [Sink.schema, Field.of]
  independent := by simp [Sink.schema]
  filled _ _ := .cons (Form.option_faithful (Topic.lawful _).faithful (Schema.neverNull _)) nofun
    (fun _ => rfl) Option.isNone_iff_eq_none.mp (.nil _)

theorem Source.option_faithful : (Form.option Source.form).Faithful :=
  Form.option_faithful Source.lawful.faithful (Schema.neverNull _)

theorem Sink.option_faithful : (Form.option Sink.form).Faithful :=
  Form.option_faithful Sink.lawful.faithful (Schema.neverNull _)

/-! ### Functions -/

theorem FunctionSpec.lawful : FunctionSpec.schema.Lawful where
  distinct := by simp [FunctionSpec.schema, Field.of]
  independent := by
    simp only [FunctionSpec.schema, List.pairwise_cons, List.mem_cons, forall_eq_or_imp,
      List.not_mem_nil, false_implies, implies_true, List.Pairwise.nil, and_true]
    and_intros
    all_goals exact Field.independent_of fun _ _ _ => rfl
  filled _ _ :=
    .cons Form.text_faithful nofun (fun _ => rfl) String.isEmpty_iff.mp <|
    .cons Form.text_faithful nofun (fun _ => rfl) String.isEmpty_iff.mp <|
    .cons Form.text_faithful (fun _ => rfl) (fun _ => rfl) nofun <|
    .cons Form.text_faithful (fun _ => rfl) (fun _ => rfl) nofun <|
    .cons Form.text_faithful nofun (fun _ => rfl) String.isEmpty_iff.mp <|
    .cons (Form.list_faithful Source.lawful.faithful) nofun (fun _ => rfl) List.isEmpty_iff.mp <|
    .cons Source.option_faithful nofun (fun _ => rfl) Option.isNone_iff_eq_none.mp <|
    .cons Sink.option_faithful nofun (fun _ => rfl) Option.isNone_iff_eq_none.mp <|
    .cons (Form.dictionary_faithful Form.free_faithful) nofun (fun _ => rfl)
      Dictionary.eq_empty_of_isEmpty <| .nil _

theorem FunctionStatus.lawful : FunctionStatus.schema.Lawful where
  distinct := by simp [FunctionStatus.schema, Field.of]
  independent := by
    simp only [FunctionStatus.schema, List.pairwise_cons, List.mem_cons, forall_eq_or_imp,
      List.not_mem_nil, false_implies, implies_true, List.Pairwise.nil, and_true]
    and_intros
    all_goals exact Field.independent_of fun _ _ _ => rfl
  filled _ _ :=
    .cons Form.int32_faithful nofun (fun _ => rfl) nofun <|
    .cons Form.int32_faithful nofun (fun _ => rfl) nofun <|
    .cons Form.int32_faithful nofun (fun _ => rfl) nofun <|
    .cons Form.int32_faithful nofun (fun _ => rfl) nofun <|
    .cons Form.int64_faithful nofun (fun _ => rfl) nofun <| .nil _

/-! ### Agents -/

theorem AgentStatus.lawful : AgentStatus.schema.Lawful where
  distinct := by simp [AgentStatus.schema, Field.of]
  independent := by simp [AgentStatus.schema]
  filled _ _ := .cons FunctionStatus.lawful.faithful nofun (fun _ => rfl) nofun (.nil _)

/-! ### Records as the store keeps them -/

theorem Json.eq_null_of_isNull {v : Json} (h : v.isNull = true) : v = .null := by
  cases v <;> first | rfl | cases h

theorem Kind.form_faithful : Kind.form.Faithful :=
  Form.choice_faithful fun k => by cases k <;> rfl

theorem OwnerReference.lawful : OwnerReference.schema.Lawful where
  distinct := by simp [OwnerReference.schema, Field.of]
  independent := by
    simp only [OwnerReference.schema, List.pairwise_cons, List.mem_cons, forall_eq_or_imp,
      List.not_mem_nil, false_implies, implies_true, List.Pairwise.nil, and_true]
    and_intros
    all_goals exact Field.independent_of fun _ _ _ => rfl
  filled _ _ :=
    .cons Kind.form_faithful (fun _ => rfl) (fun _ => rfl) nofun <|
    .cons Form.text_faithful (fun _ => rfl) (fun _ => rfl) nofun <|
    .cons Form.text_faithful (fun _ => rfl) (fun _ => rfl) nofun <|
    .cons Form.flag_faithful nofun (fun _ => rfl) nofun <| .nil _

theorem Metadata.lawful : Metadata.schema.Lawful where
  distinct := by simp [Metadata.schema, Field.of]
  independent := by
    simp only [Metadata.schema, List.pairwise_cons, List.mem_cons, forall_eq_or_imp,
      List.not_mem_nil, false_implies, implies_true, List.Pairwise.nil, and_true]
    and_intros
    all_goals exact Field.independent_of fun _ _ _ => rfl
  filled _ _ :=
    .cons Form.text_faithful (fun _ => rfl) (fun _ => rfl) nofun <|
    .cons Form.text_faithful nofun (fun _ => rfl) nofun <|
    .cons Form.text_faithful nofun (fun _ => rfl) String.isEmpty_iff.mp <|
    .cons Form.count_faithful nofun (fun _ => rfl) nofun <|
    .cons Form.count_faithful nofun (fun _ => rfl) nofun <|
    .cons (Form.dictionary_faithful Form.text_faithful) nofun (fun _ => rfl)
      Dictionary.eq_empty_of_isEmpty <|
    .cons (Form.list_faithful OwnerReference.lawful.faithful) nofun (fun _ => rfl)
      List.isEmpty_iff.mp <| .nil _

/-- The type of a record is lawful if the specification and the status are read as they were written,
and are dropped only where they are the ones to start with. -/
theorem RecordOf.lawful {σ τ : Type} {spec : Form σ} {noSpec : σ} {droppedSpec : σ → Bool}
    {status : Form τ} {noStatus : τ} {droppedStatus : τ → Bool} {name : String}
    (specFaithful : spec.Faithful) (specDropped : ∀ {s}, droppedSpec s = true → s = noSpec)
    (statusFaithful : status.Faithful)
    (statusDropped : ∀ {t}, droppedStatus t = true → t = noStatus) :
    (RecordOf.schema spec noSpec droppedSpec status noStatus droppedStatus name).Lawful where
  distinct := by simp [RecordOf.schema, Field.of]
  independent := by
    simp only [RecordOf.schema, List.pairwise_cons, List.mem_cons, forall_eq_or_imp,
      List.not_mem_nil, false_implies, implies_true, List.Pairwise.nil, and_true]
    and_intros
    all_goals exact Field.independent_of fun _ _ _ => rfl
  filled _ _ :=
    .cons Metadata.lawful.faithful (fun _ => rfl) (fun _ => rfl) nofun <|
    .cons specFaithful nofun (fun _ => rfl) specDropped <|
    .cons statusFaithful nofun (fun _ => rfl) statusDropped <| .nil _

theorem Record.lawful : Record.schema.Lawful :=
  RecordOf.lawful Form.free_faithful Json.eq_null_of_isNull Form.free_faithful
    Json.eq_null_of_isNull

/-- What is written of a function, in whatever order of its fields, is read back as it was. -/
theorem FunctionRecord.form_faithful : (RecordOf.form : Form FunctionRecord).Faithful := by
  apply Schema.Lawful.faithful
  exact RecordOf.lawful FunctionSpec.lawful.faithful nofun FunctionStatus.lawful.faithful nofun

end ControlPlane
