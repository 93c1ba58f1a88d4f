import ControlPlane.Proofs.Store.Run
import ControlPlane.Proofs.Store.Typed
import ControlPlane.Reconcile.Derivation

/-!
Composition reads and does not write. What it ends with depends on the agent's specification and
name (`Documents.compose_congr`) and on what its tools resolve to (`Documents.endOn_compose_congr`),
hence only on the functions named as tools and their packages (`Documents.compose_steady`). The
documents hold no double-precision number, so a stored specification that is the same as a derived
one is equal to it (`FunctionSpec.same_iff_eq`).
-/

namespace ControlPlane

variable {κ : Type} [Address κ]

/-! ### Reading a record -/

namespace Client

variable {σ τ : Type} [shape : RecordShape σ τ]

@[simp] theorem endOn_get (key : RecordKey) (s : Store κ) : (get σ key).endOn s = s.fetch σ key := by
  rw [Attempt.endOn, get_run]
  rfl

theorem get_readsOnly (key : RecordKey) : (get σ key).run.ReadsOnly := by
  rw [get_run]
  exact ⟨rfl, fun _ => trivial⟩

theorem get_steady {alike : Store κ → Prop} {s : Store κ} {key : RecordKey}
    (same : ∀ t, alike t → t.find? shape.kind key = s.find? shape.kind key) :
    (get σ key).run.Steady alike s := by
  rw [get_run]
  refine ⟨rfl, fun t ht => ?_, trivial⟩
  simp only [Store.answer_get, same t ht]

end Client

/-! ### Tools -/

namespace ToolReference

variable {tool : ToolReference} {home : String} {s t : Store κ}

/-- Two stores hold the same function for a tool reference, and the same package for it. -/
def Alike (tool : ToolReference) (home : String) (s t : Store κ) : Prop :=
  t.find? .function (tool.key home) = s.find? .function (tool.key home) ∧
    ∀ f, s.fetch FunctionSpec (tool.key home) = .ok f →
      t.find? .package (FunctionRecord.packageKey f) = s.find? .package (FunctionRecord.packageKey f)

theorem Alike.refl (tool : ToolReference) (home : String) (s : Store κ) : tool.Alike home s s :=
  ⟨rfl, fun _ _ => rfl⟩

theorem Alike.trans {u : Store κ} (h : tool.Alike home s t) (h' : tool.Alike home t u) :
    tool.Alike home s u := by
  refine ⟨h'.1.trans h.1, fun f read => ?_⟩
  have read' : t.fetch FunctionSpec (tool.key home) = .ok f := by
    rw [Store.fetch_congr h.1, read]
  rw [h'.2 f read', h.2 f read]

theorem resolve_steady (tool : ToolReference) (home : String) (s : Store κ) :
    (tool.resolve home).run.Steady (tool.Alike home s) s := by
  refine Attempt.steady_bind (Attempt.steady_mapError (Client.get_steady fun t h => h.1)) ?_
  intro f read
  rw [Attempt.endOn_mapError, Client.endOn_get, Outcome.mapError_eq_ok_iff] at read
  refine Attempt.steady_bind (Attempt.steady_mapError (Client.get_steady fun t h => h.2 f read)) ?_
  exact fun p _ => trivial

theorem resolve_readsOnly (tool : ToolReference) (home : String) :
    (tool.resolve home).run.ReadsOnly :=
  Attempt.readsOnly_bind (Attempt.readsOnly_mapError (Client.get_readsOnly _)) fun _ =>
    Attempt.readsOnly_bind (Attempt.readsOnly_mapError (Client.get_readsOnly _)) fun _ => trivial

/-- What a tool reference resolves to, read off the store. -/
theorem endOn_resolve (tool : ToolReference) (home : String) (s : Store κ) :
    (tool.resolve home).endOn s = (do
      let f ← (s.fetch FunctionSpec (tool.key home)).mapError (.function tool.text)
      let p ← (s.fetch PackageSpec (FunctionRecord.packageKey f)).mapError (.package f.spec.package)
      ToolContext.of f p) := by
  rw [resolve, Attempt.endOn_bind (Attempt.readsOnly_mapError (Client.get_readsOnly _)),
    Attempt.endOn_mapError, Client.endOn_get]
  refine bind_congr fun f => ?_
  rw [Attempt.endOn_bind (Attempt.readsOnly_mapError (Client.get_readsOnly _)),
    Attempt.endOn_mapError, Client.endOn_get]
  rfl

end ToolReference

/-! ### The agent document -/

namespace AgentContext

theorem resolveTools_steady {alike : Store κ → Prop} {home : String} {s : Store κ}
    {tools : List ToolReference} (same : ∀ tool ∈ tools, ∀ t, alike t → tool.Alike home s t)
    (found : Dictionary String ToolContext) :
    (resolveTools home tools found).run.Steady alike s := by
  induction tools generalizing found with
  | nil => trivial
  | cons tool rest ih =>
    have first := (tool.resolve_steady home s).mono (same tool List.mem_cons_self)
    refine Attempt.steady_bind (Attempt.steady_mapError first) fun context _ => ?_
    exact ih (fun other mem => same other (List.mem_cons_of_mem _ mem)) _

theorem endOn_resolveTools_congr {home : String} {s t : Store κ} {tools : List ToolReference}
    (same : ∀ tool ∈ tools, (tool.resolve home).endOn t = (tool.resolve home).endOn s)
    (found : Dictionary String ToolContext) :
    (resolveTools home tools found).endOn t = (resolveTools home tools found).endOn s := by
  induction tools generalizing found with
  | nil => rfl
  | cons tool rest ih =>
    have reads := Attempt.readsOnly_mapError (f := ReconcileError.toolResolution tool.text)
      (tool.resolve_readsOnly home)
    rw [resolveTools, Attempt.endOn_bind reads, Attempt.endOn_bind reads,
      Attempt.endOn_mapError, Attempt.endOn_mapError, same tool List.mem_cons_self]
    exact bind_congr fun context => ih (fun other mem => same other (List.mem_cons_of_mem _ mem)) _

theorem compose_steady {alike : Store κ → Prop} {agent : AgentRecord} {s : Store κ}
    (same : ∀ tool ∈ agent.spec.tools, ∀ t, alike t → tool.Alike agent.metadata.namespace s t) :
    (compose agent).run.Steady alike s :=
  Attempt.steady_bind (resolveTools_steady same ∅) fun _ _ => trivial

theorem resolveTools_readsOnly (home : String) (tools : List ToolReference)
    (found : Dictionary String ToolContext) : (resolveTools home tools found).run.ReadsOnly := by
  induction tools generalizing found with
  | nil => trivial
  | cons tool rest ih =>
    exact Attempt.readsOnly_bind (Attempt.readsOnly_mapError (tool.resolve_readsOnly home))
      fun _ => ih _

theorem compose_readsOnly (agent : AgentRecord) : (compose agent).run.ReadsOnly :=
  Attempt.readsOnly_bind (resolveTools_readsOnly _ _ ∅) fun _ => trivial

end AgentContext

/-! ### All documents -/

/-- Two stores hold the same tools for an agent. -/
def AgentRecord.ToolsAlike (agent : AgentRecord) (s t : Store κ) : Prop :=
  ∀ tool ∈ agent.spec.tools, tool.Alike agent.metadata.namespace s t

namespace Documents

variable {broker : BrokerSettings} {agent : AgentRecord}

theorem compose_steady (broker : BrokerSettings) (agent : AgentRecord) (s : Store κ) :
    (compose broker agent).run.Steady (agent.ToolsAlike s) s := by
  refine Attempt.steady_bind (Attempt.steady_mapError ?_) fun _ _ => trivial
  exact AgentContext.compose_steady fun tool mem t alike => alike tool mem

/-- Composition only reads. -/
theorem compose_readsOnly (broker : BrokerSettings) (agent : AgentRecord) :
    (compose broker agent).run.ReadsOnly :=
  Attempt.readsOnly_bind (Attempt.readsOnly_mapError (AgentContext.compose_readsOnly agent))
    fun _ => trivial

/-- Stores on which the tools of an agent resolve alike give it the same documents. -/
theorem endOn_compose_congr {s t : Store κ}
    (same : ∀ tool ∈ agent.spec.tools, (tool.resolve agent.metadata.namespace).endOn t =
      (tool.resolve agent.metadata.namespace).endOn s) :
    (compose broker agent).endOn t = (compose broker agent).endOn s := by
  have context := Attempt.readsOnly_mapError
    (f := ReconcileError.compose agent.metadata.name "agent") (AgentContext.compose_readsOnly agent)
  have tools := AgentContext.resolveTools_readsOnly agent.metadata.namespace agent.spec.tools ∅
  rw [compose, Attempt.endOn_bind context, Attempt.endOn_bind context,
    Attempt.endOn_mapError, Attempt.endOn_mapError, AgentContext.compose,
    Attempt.endOn_bind tools, Attempt.endOn_bind tools,
    AgentContext.endOn_resolveTools_congr same]
  rfl

/-- Agents of one specification, name and namespace have the same documents. -/
theorem compose_congr {agent' : AgentRecord} (spec : agent'.spec = agent.spec)
    (name : agent'.metadata.name = agent.metadata.name)
    (home : agent'.metadata.namespace = agent.metadata.namespace) :
    compose broker agent' = compose broker agent := by
  simp only [compose, AgentContext.compose, spec, name, home]

/-! ### Documents are plain -/

theorem source_writesPlain : (Form.option Source.form).WritesPlain := by
  refine Form.option_writesPlain (Schema.writesPlain ?_)
  simp only [Source.schema, List.mem_singleton, forall_eq]
  refine Field.plain_of (Form.option_writesPlain (Schema.writesPlain ?_))
  simp only [Topic.schema, List.mem_singleton, forall_eq]
  exact Field.plain_of Form.text_writesPlain

theorem model_writesPlain : ModelConfig.form.WritesPlain := by
  refine Schema.writesPlain ?_
  simp only [ModelConfig.schema, List.mem_cons, List.not_mem_nil, or_false, forall_eq_or_imp,
    forall_eq]
  exact ⟨Field.plain_of Form.text_writesPlain, Field.plain_of Form.text_writesPlain⟩

theorem tool_writesPlain : ToolContext.form.WritesPlain := by
  refine Schema.writesPlain ?_
  simp only [ToolContext.schema, List.mem_cons, List.not_mem_nil, or_false, forall_eq_or_imp,
    forall_eq]
  exact ⟨Field.plain_of Form.text_writesPlain,
    Field.plain_of (Form.option_writesPlain Form.text_writesPlain),
    Field.plain_of (Form.option_writesPlain Form.text_writesPlain),
    Field.plain_of Form.text_writesPlain⟩

theorem context_writesPlain : AgentContext.form.WritesPlain := by
  have callback : AgentContext.callbackSchema.form.WritesPlain := by
    refine Schema.writesPlain ?_
    simp only [AgentContext.callbackSchema, List.mem_singleton, forall_eq]
    exact Field.plain_of Form.text_writesPlain
  refine Schema.writesPlain ?_
  simp only [AgentContext.schema, List.mem_cons, List.not_mem_nil, or_false, forall_eq_or_imp,
    forall_eq]
  exact ⟨Field.plain_of Form.text_writesPlain, Field.plain_of Form.text_writesPlain,
    Field.plain_of Form.text_writesPlain,
    Field.plain_of (Form.option_writesPlain (Form.dictionary_writesPlain tool_writesPlain)),
    Field.plain_of (Form.option_writesPlain callback)⟩

/-- No composed document holds a double-precision number. -/
theorem plain_of_compose {s : Store κ} {config : Documents}
    (composed : (compose broker agent).endOn s = .ok config) :
    ∀ e ∈ config.entries, e.2.isPlain = true := by
  have reads := Attempt.readsOnly_mapError
    (f := ReconcileError.compose agent.metadata.name "agent") (AgentContext.compose_readsOnly agent)
  rw [compose, Attempt.endOn_bind reads] at composed
  obtain ⟨context, -, eq⟩ := Outcome.bind_eq_ok_iff.mp composed
  obtain rfl := Except.ok.inj eq
  intro e mem
  have mem := Entries.mem_of_mem_ofList mem
  simp only [List.mem_cons, List.not_mem_nil, or_false] at mem
  rcases mem with rfl | rfl | rfl | rfl
  · exact model_writesPlain .byKey agent.spec.model
  · rfl
  · exact source_writesPlain .byKey agent.spec.responseSource
  · exact context_writesPlain .byKey context

end Documents

/-! ### Drift -/

/-- A specification is the same as a derived one exactly when the two are equal. -/
theorem FunctionSpec.same_iff_eq {stored intended : FunctionSpec}
    (plain : ∀ e ∈ intended.config.entries, e.2.isPlain = true) :
    stored.same intended = true ↔ stored = intended := by
  have documents : (stored.config == intended.config) = true ↔
      stored.config = intended.config := by
    have entries : ∀ {l m : List (String × Json)}, (∀ e ∈ m, e.2.isPlain = true) →
        ((l == m) = true ↔ l = m) := by
      intro l m plain
      induction l generalizing m with
      | nil => cases m <;> simp
      | cons x l ih =>
        cases m with
        | nil => simp
        | cons y m =>
          have head := Json.beq_iff_eq_of_isPlain (a := x.2) (plain y List.mem_cons_self)
          have tail := ih fun e mem => plain e (List.mem_cons_of_mem _ mem)
          obtain ⟨k, v⟩ := x
          obtain ⟨j, w⟩ := y
          have pair : ((k, v) == (j, w)) = (k == j && v == w) := rfl
          simp only at head
          simp only [List.cons_beq_cons, pair, Bool.and_eq_true, tail, head, beq_iff_eq,
            List.cons.injEq, Prod.mk.injEq]
    exact (entries plain).trans ⟨Dictionary.ext_entries, congrArg _⟩
  cases stored
  cases intended
  simp only [FunctionSpec.same, Bool.and_eq_true, documents, beq_iff_eq, mk.injEq, and_assoc]

end ControlPlane
