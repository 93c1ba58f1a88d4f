import ControlPlane.Proofs.Reconcile.Composition

/-!
What tool references resolve to, and what is composed of it. A reference resolves where the records
it leads to are stored, can be read and hold what a call needs (`ToolReference.resolve_eq_ok_iff`);
else it fails at the first of these that is missing (`ToolReference.resolve_eq_error_iff`). The
documents of an agent are composed exactly if all its references resolve, the last reference of a
name wins, and a failure tells the first reference that does not resolve (`Documents.compose_tells`).
-/

namespace ControlPlane

variable {κ : Type} [Address κ]

/-! ### Stored records as typed ones -/

namespace Store

variable {σ τ : Type} [shape : RecordShape σ τ] {s : Store κ} {key : RecordKey}

/-- A record is stored at a key and read as a typed one. -/
def Holds (s : Store κ) (key : RecordKey) (t : RecordOf σ τ) : Prop :=
  ∃ r, s.find? shape.kind key = some r ∧ RecordOf.ofUntyped r = .ok t

/-- Why no typed record is found at a key: none is stored there, or it cannot be read. -/
inductive Lacks (s : Store κ) (σ : Type) {τ : Type} [shape : RecordShape σ τ] (key : RecordKey) :
    StoreError → Prop where
  | absent (none : s.find? shape.kind key = none) : Lacks s σ key (.notFound shape.kind key)
  | unreadable {r : Record} {e : FormError} (found : s.find? shape.kind key = some r)
      (refused : RecordOf.ofUntyped (σ := σ) r = .error e) : Lacks s σ key (.serialization e)

theorem fetch_eq_ok_iff_holds {t : RecordOf σ τ} : s.fetch σ key = .ok t ↔ s.Holds key t := by
  simp only [fetch_eq_ok_iff, Client.typed, Outcome.mapError_eq_ok_iff, Holds]

/-- A record that is found is lacking exactly for the reason that it cannot be read. -/
theorem lacks_iff_of_found {r : Record} {e : StoreError} (found : s.find? shape.kind key = some r) :
    s.Lacks σ key e ↔
      ∃ cause, RecordOf.ofUntyped (σ := σ) r = .error cause ∧ e = .serialization cause := by
  constructor
  · intro lacks
    cases lacks with
    | absent none => cases found.symm.trans none
    | @unreadable _ cause found' refused =>
      obtain rfl := Option.some.inj (found.symm.trans found')
      exact ⟨cause, refused, rfl⟩
  · rintro ⟨cause, refused, rfl⟩
    exact .unreadable found refused

theorem fetch_eq_error_iff_lacks {e : StoreError} : s.fetch σ key = .error e ↔ s.Lacks σ key e := by
  cases found : s.find? shape.kind key with
  | none =>
    rw [fetch_of_absent found, Except.error.injEq]
    refine ⟨fun same => same ▸ .absent found, fun lacks => ?_⟩
    cases lacks with
    | absent => rfl
    | unreadable found' => cases found.symm.trans found'
  | some r =>
    rw [fetch_of_find? found, Client.typed, lacks_iff_of_found found]
    cases RecordOf.ofUntyped (σ := σ) r <;> simp [eq_comm]

end Store

/-! ### One reference -/

/-- A source has a topic that is not empty. -/
theorem Source.topic?_eq_some_iff {source : Source} {topic : String} :
    source.topic? = some topic ↔ source = .ofTopic topic ∧ topic ≠ "" := by
  obtain ⟨_ | ⟨text⟩⟩ := source
  · simp [topic?, ofTopic]
  · simp only [topic?, ofTopic, Option.map_some, Option.filter_eq_some_iff, Option.some.injEq,
      Bool.not_eq_true', String.isEmpty_eq_false_iff, mk.injEq]
    constructor
    · rintro ⟨rfl, told⟩
      exact ⟨rfl, told⟩
    · rintro ⟨rfl, told⟩
      exact ⟨rfl, told⟩

/-- What an agent has to know to call a function on a topic, given its module. -/
def ToolContext.made (f : FunctionRecord) (m : Module) (topic : String) : ToolContext where
  description := f.spec.description ++ "\n" ++ m.description
  sourceSchema := if m.sourceSchema = "" then none else some m.sourceSchema
  sinkSchema := if m.sinkSchema = "" then none else some m.sinkSchema
  requestSource := topic

theorem ToolContext.of_eq (f : FunctionRecord) (p : PackageRecord) :
    ToolContext.of f p = match p.spec.modules.find? f.spec.module with
      | none => .error (.moduleNotFound f.spec.module f.spec.package)
      | some m => match f.spec.requestSource.bind Source.topic? with
        | none => .error (.missingRequestSource f.metadata.name)
        | some topic => .ok (made f m topic) := by
  rw [of]
  cases p.spec.modules.find? f.spec.module with
  | none => rfl
  | some m =>
    cases f.spec.requestSource.bind Source.topic? with
    | none => rfl
    | some topic => simp [made, of.nonEmpty, String.isEmpty_iff]; rfl

/-- A function tells a topic that is not empty. -/
theorem FunctionSpec.topic_eq_some_iff {f : FunctionSpec} {topic : String} :
    f.requestSource.bind Source.topic? = some topic ↔
      f.requestSource = some (.ofTopic topic) ∧ topic ≠ "" := by
  cases f.requestSource with
  | none => simp
  | some source => simp [Source.topic?_eq_some_iff]

namespace ToolReference

variable {tool : ToolReference} {home : String} {s : Store κ}

/-- The key of the function that a reference made in a namespace means: that of the reference where
it gives one that is not empty, and its home else. -/
def place (tool : ToolReference) (home : String) : RecordKey :=
  ⟨(tool.namespace.filter fun ns => ns ≠ "").getD home, tool.name⟩

/-- What a reference made in a namespace resolves to. -/
inductive ResolvesTo (s : Store κ) (home : String) (tool : ToolReference) : ToolContext → Prop where
  | of {f : FunctionRecord} {p : PackageRecord} {m : Module} {topic : String}
      (function : s.Holds (tool.place home) f)
      (package : s.Holds ⟨f.metadata.namespace, f.spec.package⟩ p)
      (module : p.spec.modules.find? f.spec.module = some m)
      (source : f.spec.requestSource = some (.ofTopic topic)) (told : topic ≠ "") :
      ResolvesTo s home tool (.made f m topic)

/-- The first reason why a reference made in a namespace does not resolve. -/
inductive Fails (s : Store κ) (home : String) (tool : ToolReference) : ResolveError → Prop where
  | function {cause : StoreError} (lacks : s.Lacks FunctionSpec (tool.place home) cause) :
      Fails s home tool (.function tool.text cause)
  | package {f : FunctionRecord} {cause : StoreError} (function : s.Holds (tool.place home) f)
      (lacks : s.Lacks PackageSpec ⟨f.metadata.namespace, f.spec.package⟩ cause) :
      Fails s home tool (.package f.spec.package cause)
  | module {f : FunctionRecord} {p : PackageRecord} (function : s.Holds (tool.place home) f)
      (package : s.Holds ⟨f.metadata.namespace, f.spec.package⟩ p)
      (none : p.spec.modules.find? f.spec.module = none) :
      Fails s home tool (.moduleNotFound f.spec.module f.spec.package)
  | source {f : FunctionRecord} {p : PackageRecord} {m : Module}
      (function : s.Holds (tool.place home) f)
      (package : s.Holds ⟨f.metadata.namespace, f.spec.package⟩ p)
      (module : p.spec.modules.find? f.spec.module = some m)
      (untold : ∀ topic, f.spec.requestSource = some (.ofTopic topic) → topic = "") :
      Fails s home tool (.missingRequestSource f.metadata.name)

theorem key_eq_place (tool : ToolReference) (home : String) : tool.key home = tool.place home := by
  obtain ⟨_ | ns, name⟩ := tool
  · rfl
  · by_cases empty : ns = "" <;> simp [key, place, empty, Option.filter]

/-- A reference either resolves or fails, as its resolution tells. -/
theorem resolve_tells (tool : ToolReference) (home : String) (s : Store κ) :
    match (tool.resolve home).endOn s with
    | .ok c => ResolvesTo s home tool c
    | .error e => Fails s home tool e := by
  rw [endOn_resolve, key_eq_place]
  cases function : s.fetch FunctionSpec (tool.place home) with
  | error cause => exact .function (Store.fetch_eq_error_iff_lacks.mp function)
  | ok f =>
    have holds := Store.fetch_eq_ok_iff_holds.mp function
    simp only [Outcome.ok_mapError, Outcome.ok_bind]
    cases package : s.fetch PackageSpec (FunctionRecord.packageKey f) with
    | error cause => exact .package holds (Store.fetch_eq_error_iff_lacks.mp package)
    | ok p =>
      have packaged := Store.fetch_eq_ok_iff_holds.mp package
      simp only [Outcome.ok_mapError, Outcome.ok_bind, ToolContext.of_eq]
      cases module : p.spec.modules.find? f.spec.module with
      | none => exact .module holds packaged module
      | some m =>
        cases told : f.spec.requestSource.bind Source.topic? with
        | none =>
          refine .source holds packaged module fun topic source => ?_
          by_contra nonempty
          have := FunctionSpec.topic_eq_some_iff.mpr ⟨source, nonempty⟩
          simp [told] at this
        | some topic =>
          obtain ⟨source, nonempty⟩ := FunctionSpec.topic_eq_some_iff.mp told
          exact .of holds packaged module source nonempty

theorem resolve_of_resolvesTo {c : ToolContext} (h : ResolvesTo s home tool c) :
    (tool.resolve home).endOn s = .ok c := by
  cases h with
  | @of f p m topic function package module source told =>
    have function := Store.fetch_eq_ok_iff_holds.mpr function
    have package : s.fetch PackageSpec (FunctionRecord.packageKey f) = .ok p :=
      Store.fetch_eq_ok_iff_holds.mpr package
    have told := FunctionSpec.topic_eq_some_iff.mpr ⟨source, told⟩
    simp only [endOn_resolve, key_eq_place, function, package, Outcome.ok_mapError,
      Outcome.ok_bind, ToolContext.of_eq, module, told]

/-- A reference resolves exactly to what it leads to. -/
theorem resolve_eq_ok_iff {c : ToolContext} :
    (tool.resolve home).endOn s = .ok c ↔ ResolvesTo s home tool c := by
  refine ⟨fun done => ?_, resolve_of_resolvesTo⟩
  have told := resolve_tells tool home s
  rwa [done] at told

theorem resolve_of_fails {e : ResolveError} (h : Fails s home tool e) :
    (tool.resolve home).endOn s = .error e := by
  have packageOf (f : FunctionRecord) : FunctionRecord.packageKey f =
    ⟨f.metadata.namespace, f.spec.package⟩ := rfl
  rw [endOn_resolve, key_eq_place]
  cases h with
  | function lacks =>
    rw [Store.fetch_eq_error_iff_lacks.mpr lacks]
    rfl
  | package function lacks =>
    rw [Store.fetch_eq_ok_iff_holds.mpr function, Outcome.ok_mapError, Outcome.ok_bind, packageOf,
      Store.fetch_eq_error_iff_lacks.mpr lacks]
    rfl
  | module function package none =>
    rw [Store.fetch_eq_ok_iff_holds.mpr function, Outcome.ok_mapError, Outcome.ok_bind, packageOf,
      Store.fetch_eq_ok_iff_holds.mpr package, Outcome.ok_mapError, Outcome.ok_bind,
      ToolContext.of_eq, none]
  | @source f p m function package module untold =>
    have untold : f.spec.requestSource.bind Source.topic? = none := by
      refine Option.eq_none_iff_forall_ne_some.mpr fun topic told => ?_
      obtain ⟨source, nonempty⟩ := FunctionSpec.topic_eq_some_iff.mp told
      exact nonempty (untold topic source)
    rw [Store.fetch_eq_ok_iff_holds.mpr function, Outcome.ok_mapError, Outcome.ok_bind, packageOf,
      Store.fetch_eq_ok_iff_holds.mpr package, Outcome.ok_mapError, Outcome.ok_bind,
      ToolContext.of_eq, module, untold]

/-- A reference fails exactly for the first reason that it has. -/
theorem resolve_eq_error_iff {e : ResolveError} :
    (tool.resolve home).endOn s = .error e ↔ Fails s home tool e := by
  refine ⟨fun done => ?_, resolve_of_fails⟩
  have told := resolve_tells tool home s
  rwa [done] at told

end ToolReference

/-! ### Several references -/

namespace AgentContext

open ToolReference

variable {home : String} {s : Store κ} {tool : ToolReference} {tools : List ToolReference}
  {found d : Dictionary String ToolContext}

theorem endOn_resolveTools_cons (home : String) (tool : ToolReference) (tools : List ToolReference)
    (found : Dictionary String ToolContext) (s : Store κ) :
    (resolveTools home (tool :: tools) found).endOn s = (do
      let c ← ((tool.resolve home).endOn s).mapError (.toolResolution tool.text)
      (resolveTools home tools (found.insert tool.name c)).endOn s) := by
  have reads := Attempt.readsOnly_mapError (f := ReconcileError.toolResolution tool.text)
    (tool.resolve_readsOnly home)
  rw [resolveTools, Attempt.endOn_bind reads, Attempt.endOn_mapError]

/-- References that are all resolved: the first of them and the others. -/
theorem resolveTools_cons_eq_ok_iff :
    (resolveTools home (tool :: tools) found).endOn s = .ok d ↔ ∃ c, ResolvesTo s home tool c ∧
      (resolveTools home tools (found.insert tool.name c)).endOn s = .ok d := by
  simp only [endOn_resolveTools_cons, Outcome.bind_eq_ok_iff, Outcome.mapError_eq_ok_iff,
    resolve_eq_ok_iff]

/-- References are resolved exactly if each of them is. -/
theorem exists_resolveTools_iff : (∃ d, (resolveTools home tools found).endOn s = .ok d) ↔
    ∀ tool ∈ tools, ∃ c, ResolvesTo s home tool c := by
  induction tools generalizing found with
  | nil => exact ⟨nofun, fun _ => ⟨found, rfl⟩⟩
  | cons tool rest ih =>
    simp only [resolveTools_cons_eq_ok_iff, List.forall_mem_cons]
    constructor
    · rintro ⟨d, c, first, done⟩
      exact ⟨⟨c, first⟩, ih.mp ⟨d, done⟩⟩
    · rintro ⟨⟨c, first⟩, others⟩
      obtain ⟨d, done⟩ := ih.mpr others
      exact ⟨d, c, first, done⟩

/-- Resolving references fails for the first of them that fails. -/
theorem resolveTools_eq_error {e : ReconcileError}
    (failed : (resolveTools home tools found).endOn s = .error e) :
    ∃ before tool after cause, tools = before ++ tool :: after ∧
      (∀ t ∈ before, ∃ c, ResolvesTo s home t c) ∧ Fails s home tool cause ∧
      e = .toolResolution tool.text cause := by
  induction tools generalizing found with
  | nil => cases failed
  | cons tool rest ih =>
    rw [endOn_resolveTools_cons] at failed
    cases first : (tool.resolve home).endOn s with
    | error cause =>
      rw [first] at failed
      obtain rfl := Except.error.inj failed
      exact ⟨[], tool, rest, cause, rfl, nofun, resolve_eq_error_iff.mp first, rfl⟩
    | ok c =>
      rw [first] at failed
      obtain ⟨before, other, after, cause, rfl, resolved, fails, rfl⟩ := ih failed
      refine ⟨tool :: before, other, after, cause, rfl, ?_, fails, rfl⟩
      exact List.forall_mem_cons.mpr ⟨⟨c, resolve_eq_ok_iff.mp first⟩, resolved⟩

/-- What was found under a name that no reference has is kept. -/
theorem find?_of_resolveTools_of_unnamed {name : String}
    (done : (resolveTools home tools found).endOn s = .ok d)
    (unnamed : ∀ t ∈ tools, t.name ≠ name) : d.find? name = found.find? name := by
  induction tools generalizing found with
  | nil =>
    obtain rfl := Except.ok.inj done
    rfl
  | cons tool rest ih =>
    obtain ⟨first, others⟩ := List.forall_mem_cons.mp unnamed
    obtain ⟨c, -, done⟩ := resolveTools_cons_eq_ok_iff.mp done
    rw [ih done others, Dictionary.find?_insert_of_ne _ _ first.symm]

/-- The last reference of a name is the one that is found under it. -/
theorem find?_of_resolveTools_of_last {before after : List ToolReference}
    (done : (resolveTools home (before ++ tool :: after) found).endOn s = .ok d)
    (last : ∀ t ∈ after, t.name ≠ tool.name) :
    ∃ c, ResolvesTo s home tool c ∧ d.find? tool.name = some c := by
  induction before generalizing found with
  | nil =>
    obtain ⟨c, resolved, done⟩ := resolveTools_cons_eq_ok_iff.mp done
    refine ⟨c, resolved, ?_⟩
    rw [find?_of_resolveTools_of_unnamed done last, Dictionary.find?_insert_self]
  | cons first rest ih =>
    obtain ⟨c, -, done⟩ := resolveTools_cons_eq_ok_iff.mp done
    exact ih done

/-- The names that something is found under are those of the references. -/
theorem contains_of_resolveTools {name : String}
    (done : (resolveTools home tools found).endOn s = .ok d) :
    d.contains name = true ↔ (∃ t ∈ tools, t.name = name) ∨ found.contains name = true := by
  induction tools generalizing found with
  | nil =>
    obtain rfl := Except.ok.inj done
    simp
  | cons tool rest ih =>
    obtain ⟨c, -, done⟩ := resolveTools_cons_eq_ok_iff.mp done
    rw [ih done, Dictionary.contains_insert_iff, List.exists_mem_cons_iff]
    grind

end AgentContext

/-! ### The documents -/

/-- The entry of an agent document that tells the tools: each name of a reference once, with what
the last reference of the name resolves to. -/
structure ToolsEntry (s : Store κ) (home : String) (tools : List ToolReference)
    (fields : List (String × Json)) : Prop where
  names : ∀ name, name ∈ fields.map Prod.fst ↔ ∃ tool ∈ tools, tool.name = name
  once : (fields.map Prod.fst).Nodup
  last : ∀ before tool after, tools = before ++ tool :: after →
    (∀ t ∈ after, t.name ≠ tool.name) → ∃ c, tool.ResolvesTo s home c ∧
      (tool.name, ToolContext.form.write .byKey c) ∈ fields

namespace AgentContext

open ToolReference

variable {home : String} {s : Store κ} {tools : List ToolReference}
  {d : Dictionary String ToolContext}

/-- References that were resolved are written as their entry. -/
theorem toolsEntry_of_resolveTools (done : (resolveTools home tools ∅).endOn s = .ok d) :
    ToolsEntry s home tools
      (d.entries.map fun e => (e.1, ToolContext.form.write .byKey e.2)) where
  names name := by
    have found : d.contains name = true ↔ (∃ tool ∈ tools, tool.name = name) ∨
        (∅ : Dictionary String ToolContext).contains name = true := contains_of_resolveTools done
    have none : (∅ : Dictionary String ToolContext).contains name = false := rfl
    rw [none, or_iff_left Bool.false_ne_true, Dictionary.contains, Option.isSome_iff_exists] at found
    simp only [← found, ← Dictionary.mem_entries_iff, List.map_map, List.mem_map]
    constructor
    · rintro ⟨e, mem, rfl⟩
      exact ⟨e.2, mem⟩
    · rintro ⟨c, mem⟩
      exact ⟨_, mem, rfl⟩
  once := by
    rw [List.map_map]
    exact d.nodup_keys
  last before tool after eq latest := by
    obtain rfl := eq
    obtain ⟨c, resolved, found⟩ := find?_of_resolveTools_of_last done latest
    exact ⟨c, resolved, List.mem_map.mpr ⟨_, Dictionary.mem_entries_iff.mpr found, rfl⟩⟩

/-- The tools stand in the agent document under a name of their own, unless there are none. -/
theorem field?_tools (context : AgentContext) :
    (form.write .byKey context).field? "tools" =
      context.tools.map (Json.ofDictionary (ToolContext.form.write .byKey)) := by
  have field := Schema.field?_form_write (s := schema) (by decide) (f := schema.fields[3])
    (by simp [schema]) .byKey context
  refine field.trans ?_
  cases tools : context.tools <;> simp [schema, Field.of, tools, Form.option, Form.dictionary]

end AgentContext

/-- The documents that are composed for an agent: four of them, and the agent document tells the
tools if there are any. -/
structure Documents.Composed (s : Store κ) (agent : AgentRecord) (config : Documents) : Prop where
  names : config.keys = ["agent", "model", "pulsarRpc", "responseSource"]
  tools : ∃ document, config.find? "agent" = some document ∧
    (agent.spec.tools = [] → document.field? "tools" = none) ∧
    (agent.spec.tools ≠ [] → ∃ fields, document.field? "tools" = some (.obj fields) ∧
      ToolsEntry s agent.metadata.namespace agent.spec.tools fields)

namespace Documents

variable {broker : BrokerSettings} {agent : AgentRecord} {s : Store κ} {config : Documents}

/-- The agent document of an agent whose tools are resolved. -/
def context (agent : AgentRecord) (tools : Dictionary String ToolContext) : AgentContext where
  name := AgentName.identifier agent.metadata.name
  description := agent.spec.description
  instruction := agent.spec.instruction
  tools := if agent.spec.tools.isEmpty then none else some tools
  postProcess := agent.spec.postProcess

/-- The documents of an agent whose tools are resolved. -/
def made (broker : BrokerSettings) (agent : AgentRecord) (tools : Dictionary String ToolContext) :
    Documents :=
  .ofList [
    ("model", ModelConfig.form.write .byKey agent.spec.model),
    ("pulsarRpc", ofBroker broker),
    ("responseSource", (Form.option Source.form).write .byKey agent.spec.responseSource),
    ("agent", AgentContext.form.write .byKey (context agent tools))]

theorem endOn_compose (broker : BrokerSettings) (agent : AgentRecord) (s : Store κ) :
    (compose broker agent).endOn s = match (AgentContext.resolveTools agent.metadata.namespace
        agent.spec.tools ∅).endOn s with
      | .ok tools => .ok (made broker agent tools)
      | .error cause => .error (.compose agent.metadata.name "agent" cause) := by
  have context := Attempt.readsOnly_mapError
    (f := ReconcileError.compose agent.metadata.name "agent") (AgentContext.compose_readsOnly agent)
  have tools := AgentContext.resolveTools_readsOnly agent.metadata.namespace agent.spec.tools ∅
  rw [compose, Attempt.endOn_bind context, Attempt.endOn_mapError, AgentContext.compose,
    Attempt.endOn_bind tools]
  cases (AgentContext.resolveTools agent.metadata.namespace agent.spec.tools ∅).endOn s <;> rfl

/-- The documents in the order of their names. -/
theorem entries_made (broker : BrokerSettings) (agent : AgentRecord)
    (tools : Dictionary String ToolContext) :
    (made broker agent tools).entries = [
      ("agent", AgentContext.form.write .byKey (context agent tools)),
      ("model", ModelConfig.form.write .byKey agent.spec.model),
      ("pulsarRpc", ofBroker broker),
      ("responseSource", (Form.option Source.form).write .byKey agent.spec.responseSource)] := by
  have pm : compare "pulsarRpc" "model" = .gt := by decide
  have rm : compare "responseSource" "model" = .gt := by decide
  have rp : compare "responseSource" "pulsarRpc" = .gt := by decide
  have am : compare "agent" "model" = .lt := by decide
  simp [made, Dictionary.ofList, Entries.ofList, Entries.insert, pm, rm, rp, am]

/-- Documents are composed of tools that are resolved. -/
theorem composed_of_ok (done : (compose broker agent).endOn s = .ok config) :
    Composed s agent config := by
  rw [endOn_compose] at done
  split at done
  · rename_i d resolved
    obtain rfl := Except.ok.inj done
    have document : (made broker agent d).find? "agent" =
        some (AgentContext.form.write .byKey (context agent d)) := by
      rw [← Dictionary.mem_entries_iff, entries_made]
      exact List.mem_cons_self
    refine ⟨by rw [Dictionary.keys, entries_made]; rfl, _, document, fun none => ?_, fun some => ?_⟩
    · rw [AgentContext.field?_tools, context, none]
      rfl
    · refine ⟨_, ?_, AgentContext.toolsEntry_of_resolveTools resolved⟩
      rw [AgentContext.field?_tools, context, if_neg (by simpa using some)]
      rfl
  · cases done

/-- Documents are composed exactly if all references of the agent resolve. -/
theorem exists_compose_iff : (∃ config, (compose broker agent).endOn s = .ok config) ↔
    ∀ tool ∈ agent.spec.tools, ∃ c, tool.ResolvesTo s agent.metadata.namespace c := by
  have resolvable : (∃ d, (AgentContext.resolveTools agent.metadata.namespace
      agent.spec.tools ∅).endOn s = .ok d) ↔
        ∀ tool ∈ agent.spec.tools, ∃ c, tool.ResolvesTo s agent.metadata.namespace c :=
    AgentContext.exists_resolveTools_iff
  rw [← resolvable, endOn_compose]
  constructor
  · rintro ⟨config, done⟩
    split at done
    · rename_i d resolved
      exact ⟨d, resolved⟩
    · cases done
  · rintro ⟨d, resolved⟩
    exact ⟨_, by rw [resolved]⟩

/-- The documents of an agent are composed exactly if each of its references resolves, whether or
not a later one of the same name stands for it; they are the four documents, in which the last
reference of a name stands for it. Else the failure tells the agent document and, of the first
reference that does not resolve, the first reason. -/
theorem compose_tells (broker : BrokerSettings) (agent : AgentRecord) (s : Store κ) :
    ((∃ config, (compose broker agent).endOn s = .ok config) ↔
      ∀ tool ∈ agent.spec.tools, ∃ c, tool.ResolvesTo s agent.metadata.namespace c) ∧
    (∀ config, (compose broker agent).endOn s = .ok config → Composed s agent config) ∧
    (∀ e, (compose broker agent).endOn s = .error e →
      ∃ before tool after cause, agent.spec.tools = before ++ tool :: after ∧
        (∀ t ∈ before, ∃ c, t.ResolvesTo s agent.metadata.namespace c) ∧
        tool.Fails s agent.metadata.namespace cause ∧
        e = .compose agent.metadata.name "agent" (.toolResolution tool.text cause)) := by
  refine ⟨exists_compose_iff, fun config => composed_of_ok, fun e failed => ?_⟩
  rw [endOn_compose] at failed
  split at failed
  · cases failed
  · rename_i failed'
    obtain rfl := Except.error.inj failed
    obtain ⟨before, tool, after, reason, tools, resolved, fails, rfl⟩ :=
      AgentContext.resolveTools_eq_error failed'
    exact ⟨before, tool, after, reason, tools, resolved, fails, rfl⟩

/-! ### A function that cannot be read -/

/-- A function with a text for its status, whose specification names a module of a package and a
topic. -/
def downFunction : Record :=
  ⟨{ name := "f", «namespace» := "d" }, .obj [("module", .str "m"), ("package", .str "p"),
    ("requestSource", .obj [("pulsar", .obj [("topic", .str "t")])])], .str "down"⟩

/-- The package with that module. -/
def downPackage : Record :=
  ⟨{ name := "p", «namespace» := "d" }, .obj [("modules", .obj [("m", .obj [])])], .null⟩

/-- A store with the two. -/
def downStore : Store RecordId :=
  let start : Store RecordId := .empty ⟨fun n => "gen-" ++ toString (n + 1), 0⟩
  ((start.answer (.create .package downPackage)).2.store.answer
    (.create .function downFunction)).2.store

/-- An agent that has the function for its only tool. -/
def downAgent : AgentRecord :=
  ⟨{ name := "a", «namespace» := "d" }, { tools := [⟨none, "f"⟩] }, {}⟩

/-- The function is stored and its specification can be read, the package is stored and has the
module, and the topic is not empty; yet the reference to it does not resolve, for its status cannot
be read. -/
theorem unreadable_status_unresolved :
    ∃ r f q p, downStore.find? .function ⟨"d", "f"⟩ = some r ∧
      RecordOf.specOf FunctionSpec r.spec = .ok f ∧
      downStore.find? .package ⟨"d", f.package⟩ = some q ∧
      (RecordOf.ofUntyped q : Except FormError PackageRecord) = .ok p ∧
      (p.spec.modules.find? f.module).isSome = true ∧
      f.requestSource = some (.ofTopic "t") ∧
      (compose {} downAgent).endOn downStore = .error (.compose "a" "agent"
        (.toolResolution "f" (.function "f" (.serialization
          (.wrongType (.str "down") "struct FunctionStatus"))))) := by
  refine ⟨downFunction.admitted "gen-2", _, downPackage.admitted "gen-1", _, rfl, rfl, rfl, rfl, rfl,
    rfl, ?_⟩
  have fails : ToolReference.Fails downStore downAgent.metadata.namespace ⟨none, "f"⟩
      (.function "f" (.serialization (.wrongType (.str "down") "struct FunctionStatus"))) :=
    .function (.unreadable rfl rfl)
  have stops : (AgentContext.resolveTools downAgent.metadata.namespace
      downAgent.spec.tools ∅).endOn downStore = .error (.toolResolution "f" (.function "f"
        (.serialization (.wrongType (.str "down") "struct FunctionStatus")))) := by
    refine (AgentContext.endOn_resolveTools_cons ..).trans ?_
    rw [ToolReference.resolve_of_fails fails]
    rfl
  rw [endOn_compose, stops]
  rfl

end Documents

end ControlPlane
