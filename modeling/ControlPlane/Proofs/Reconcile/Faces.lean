import ControlPlane.Proofs.Reconcile.Alone

/-!
The face of a function: the part of it that tool references read. An invocation gives the function
of its agent the derived face and changes no other face (`Reconciler.step_faces`), so every face
changes at most once. An invocation that changed no face has nothing to do afterwards
(`Reconciler.idle_after`), and stays so while faces, its agent and its function stay the same
(`Reconciler.Idle.congr`).
-/

namespace ControlPlane

variable {κ : Type} [Address κ]

/-! ### Faces -/

/-- What a tool reference reads of a function. -/
structure FunctionFace where
  key : RecordKey
  description : String
  package : String
  module : String
  requestSource : Option Source

/-- The face of a function. -/
def FunctionRecord.face (f : FunctionRecord) : FunctionFace :=
  ⟨f.key, f.spec.description, f.spec.package, f.spec.module, f.spec.requestSource⟩

/-- The face of the function of an agent, whatever its documents are. -/
def AgentRecord.face (agent : AgentRecord) : FunctionFace :=
  FunctionRecord.face (FunctionRecord.derived agent ∅)

theorem AgentRecord.WantsSame.face_eq {a b : AgentRecord} (h : a.WantsSame b) :
    AgentRecord.face a = AgentRecord.face b := by
  show FunctionFace.mk a.key a.spec.description agentPackage agentPackage a.spec.requestSource = _
  rw [h.key_eq, h.spec]
  rfl

/-- Functions of one face are the same tool. -/
theorem ToolContext.of_congr {f g : FunctionRecord} (h : f.face = g.face) (p : PackageRecord) :
    ToolContext.of f p = ToolContext.of g p := by
  obtain ⟨key, description, package, module, source⟩ := FunctionFace.mk.inj h
  have name : f.metadata.name = g.metadata.name := congrArg RecordKey.name key
  simp only [ToolContext.of, name, description, package, module, source]

namespace Store

/-- Two stores show the same face of every function, and hold the same packages. -/
def SameFaces (s t : Store κ) : Prop :=
  ∀ key, (t.fetch FunctionSpec key).map FunctionRecord.face =
      (s.fetch FunctionSpec key).map FunctionRecord.face ∧
    t.find? .package key = s.find? .package key

theorem SameFaces.refl (s : Store κ) : s.SameFaces s := fun _ => ⟨rfl, rfl⟩

/-- Where faces are the same, a tool reference resolves alike. -/
theorem SameFaces.endOn_resolve {s t : Store κ} (h : s.SameFaces t) (tool : ToolReference)
    (home : String) : (tool.resolve home).endOn t = (tool.resolve home).endOn s := by
  have faces := (h (tool.key home)).1
  rw [ToolReference.endOn_resolve, ToolReference.endOn_resolve]
  cases read : s.fetch FunctionSpec (tool.key home) with
  | error e =>
    rw [read] at faces
    cases read' : t.fetch FunctionSpec (tool.key home) with
    | error e' =>
      rw [read'] at faces
      obtain rfl := Except.error.inj faces
      rfl
    | ok g => simp [read'] at faces
  | ok f =>
    rw [read] at faces
    cases read' : t.fetch FunctionSpec (tool.key home) with
    | error e' => simp [read'] at faces
    | ok g =>
      rw [read'] at faces
      have face : FunctionRecord.face g = FunctionRecord.face f := Except.ok.inj faces
      obtain ⟨key, description, package, module, source⟩ := FunctionFace.mk.inj face
      have home : g.metadata.namespace = f.metadata.namespace :=
        congrArg RecordKey.namespace key
      have packageKey : FunctionRecord.packageKey g = FunctionRecord.packageKey f := by
        simp only [FunctionRecord.packageKey, home, package]
      have packages : t.fetch PackageSpec (FunctionRecord.packageKey f) =
          s.fetch PackageSpec (FunctionRecord.packageKey f) :=
        fetch_congr (h _).2
      simp only [Outcome.ok_mapError, Outcome.ok_bind, packageKey, packages, package,
        ToolContext.of_congr face]

/-- Where faces are the same, an agent has the same documents. -/
theorem SameFaces.endOn_compose {s t : Store κ} (h : s.SameFaces t) (broker : BrokerSettings)
    (agent : AgentRecord) :
    (Documents.compose broker agent).endOn t = (Documents.compose broker agent).endOn s :=
  Documents.endOn_compose_congr fun tool _ => h.endOn_resolve tool _

/-- The function at a key has the face that the agent there gives it. -/
def Faced (s : Store κ) (key : RecordKey) : Prop :=
  ∃ agent f, s.fetch AgentSpec key = .ok agent ∧ s.fetch FunctionSpec key = .ok f ∧
    FunctionRecord.face f = AgentRecord.face agent

end Store

namespace Reconciler

variable {broker : BrokerSettings} {key : RecordKey} {s : Store κ}

/-! ### One invocation -/

/-- The store after an invocation for a key. -/
def after (broker : BrokerSettings) (s : Store κ) (key : RecordKey) : Store κ :=
  ((reconcile broker key).run.runOn s).2.store

/-- An invocation for the key changes and announces nothing. -/
def Idle (broker : BrokerSettings) (key : RecordKey) (s : Store κ) : Prop :=
  ((reconcile broker key).run.runOn s).2 = ⟨s, []⟩

theorem Idle.after_eq (h : Idle broker key s) : after broker s key = s :=
  congrArg Written.store h

theorem idle_of_error {e : StoreError} (read : s.fetch AgentSpec key = .error e) :
    Idle broker key s :=
  congrArg Prod.snd (runOn_reconcile_of_error broker read).2

/-- A derived function has the face that its agent gives it. -/
theorem Derived.face_eq {agent : AgentRecord} {config : Documents} {f : FunctionRecord}
    (home : s.fetch AgentSpec key = .ok agent)
    (h : Derived agent config (before agent config (s.fetch FunctionSpec key)) f) :
    FunctionRecord.face f = AgentRecord.face agent := by
  have sameKey : f.key = agent.key := by
    obtain ⟨m, -, sameKey, -⟩ := h.controlled
    refine sameKey.trans ?_
    cases read : s.fetch FunctionSpec key with
    | error e => rfl
    | ok stored =>
      have address := Address.of_congr (l := .function) (Store.filed_fetch home).1
      exact Address.of_inj (Store.filed_fetch read).2 (Store.filed_fetch home).2
        ((Store.filed_fetch read).1.symm.trans address)
  simp only [FunctionRecord.face, AgentRecord.face, sameKey, h.spec]
  rfl

/-- An invocation is idle, or function and agent are in agreement after it. -/
theorem idle_or_settled (broker : BrokerSettings) (key : RecordKey) (s : Store κ) :
    Idle broker key s ∨ ∃ agent config f agent', s.fetch AgentSpec key = .ok agent ∧
      agent.spec.validate = .ok () ∧ (Documents.compose broker agent).endOn s = .ok config ∧
      Settled agent config key s (after broker s key) f agent' := by
  cases home : s.fetch AgentSpec key with
  | error e => exact .inl (idle_of_error home)
  | ok agent =>
    have run := (runOn_reconcile_of_ok broker home).2
    rcases runOn_sync_cases broker home with ⟨e, failed⟩ |
        ⟨config, action, told, w, f, agent', valid, composed, run', settled, -⟩
    · exact .inl (congrArg Prod.snd (run.trans failed))
    · have left : after broker s key = w.store :=
        congrArg (fun r => r.2.store) (run.trans run')
      exact .inr ⟨agent, config, f, agent', rfl, valid, composed, left ▸ settled⟩

/-- An invocation leaves all records alone but its agent and its function. -/
theorem after_others (broker : BrokerSettings) {kind' : Kind} {key' : RecordKey}
    (function : Address.of (κ := κ) kind' key' ≠ Address.of .function key)
    (agent : Address.of (κ := κ) kind' key' ≠ Address.of .agent key) :
    (after broker s key).find? kind' key' = s.find? kind' key' := by
  rcases idle_or_settled broker key s with idle | ⟨_, _, _, _, -, -, -, settled⟩
  · rw [idle.after_eq]
  · exact settled.others kind' key' function agent

/-- An invocation neither adds nor drops an agent. -/
theorem isSome_agent_after (broker : BrokerSettings) (key key' : RecordKey) (s : Store κ) :
    ((after broker s key).find? .agent key').isSome = (s.find? .agent key').isSome := by
  rcases idle_or_settled broker key s with idle | ⟨agent, _, _, agent', home, -, -, settled⟩
  · rw [idle.after_eq]
  · by_cases same : Address.of (κ := κ) .agent key' = Address.of .agent key
    · obtain ⟨r, found, -⟩ := Store.fetch_eq_ok_iff.mp home
      obtain ⟨r', found', -⟩ := Store.fetch_eq_ok_iff.mp settled.reread
      rw [Store.find?_congr s same, Store.find?_congr _ same]
      exact (congrArg Option.isSome found').trans (congrArg Option.isSome found).symm
    · rw [settled.others .agent key' (Address.function_ne_agent key key').symm same]

/-- An invocation changes no face, or it gives its function the derived face, which the function did
not have; no function loses its derived face. -/
theorem step_faces (broker : BrokerSettings) (key : RecordKey) (s : Store κ) :
    (s.SameFaces (after broker s key) ∨ ¬ s.Faced key ∧ (after broker s key).Faced key) ∧
      ∀ key', s.Faced key' → (after broker s key).Faced key' := by
  rcases idle_or_settled broker key s with idle |
      ⟨agent, config, f, agent', home, -, -, settled⟩
  · rw [idle.after_eq]
    exact ⟨.inl (.refl s), fun _ faced => faced⟩
  · have face := settled.derived.face_eq home
    have faced : (after broker s key).Faced key :=
      ⟨agent', f, settled.reread, settled.function, face.trans settled.wants.face_eq.symm⟩
    have agentOthers : ∀ key', Address.of (κ := κ) .function key' ≠ Address.of .function key →
        Address.of (κ := κ) .agent key' ≠ Address.of .agent key :=
      fun key' ne eq => ne (Address.of_congr eq)
    constructor
    · by_cases already : s.Faced key
      · left
        intro key'
        constructor
        · by_cases same : Address.of (κ := κ) .function key' = Address.of .function key
          · obtain ⟨a, g, home', read, face'⟩ := already
            obtain rfl := Except.ok.inj (home.symm.trans home')
            rw [Store.fetch_congr_key s same read,
              Store.fetch_congr_key _ same settled.function]
            exact congrArg Except.ok (face.trans face'.symm)
          · rw [Store.fetch_congr (settled.others .function key' same
              (Address.function_ne_agent key' key))]
        · exact settled.others .package key' (Address.of_ne_of_kind (by decide) key' key)
            (Address.of_ne_of_kind (by decide) key' key)
      · exact .inr ⟨already, faced⟩
    · intro key' faced'
      by_cases same : Address.of (κ := κ) .function key' = Address.of .function key
      · obtain ⟨a, g, home', read, face'⟩ := faced
        exact ⟨a, g, Store.fetch_congr_key _ (Address.of_congr same) home',
          Store.fetch_congr_key _ same read, face'⟩
      · obtain ⟨a, g, home', read, face'⟩ := faced'
        refine ⟨a, g, ?_, ?_, face'⟩
        · rw [Store.fetch_congr (settled.others .agent key'
            (Address.function_ne_agent key key').symm (agentOthers key' same)), home']
        · rw [Store.fetch_congr (settled.others .function key' same
            (Address.function_ne_agent key' key)), read]

/-! ### Nothing left to do -/

theorem runOn_conclude_of_refused {agent : AgentRecord} {config : Documents} {e : ReconcileError}
    (refused : verdict agent (intended agent config) (s.fetch FunctionSpec key) = .refused e) :
    (conclude agent key config).runOn s = (.error e, ⟨s, []⟩) := by
  rw [conclude, Routine.runOn_bind, runOn_syncFunction, refused]
  rfl

/-- An invocation that changed no face has nothing to do afterwards. -/
theorem idle_after (same : s.SameFaces (after broker s key)) :
    Idle broker key (after broker s key) := by
  rcases idle_or_settled broker key s with idle |
      ⟨agent, config, f, agent', home, valid, composed, settled⟩
  · rwa [idle.after_eq]
  · have composed' : (Documents.compose broker agent').endOn (after broker s key) = .ok config := by
      rw [settled.wants.compose_eq, same.endOn_compose, composed]
    have valid' : agent'.spec.validate = .ok () := by rw [settled.wants.spec, valid]
    have plain := Documents.plain_of_compose composed
    rw [Idle, (runOn_reconcile_of_ok broker settled.reread).2]
    by_cases contested : Metadata.Contested .agent agent.metadata
      (before agent config (s.fetch FunctionSpec key))
    · obtain ⟨e, refused⟩ := settled.refused contested (intended agent' config)
      rw [runOn_sync, valid', composed']
      rw [← settled.function] at refused
      exact congrArg Prod.snd (runOn_conclude_of_refused refused)
    · have rest : AtRest broker agent' key (after broker s key) :=
        ⟨config, f, valid', composed', settled.function, settled.kept plain contested,
          settled.status⟩
      exact congrArg Prod.snd (runOn_sync_of_atRest rest).2

/-- Nothing is left to do while faces, the agent and its function stay the same. -/
theorem Idle.congr {t : Store κ} (h : Idle broker key s) (same : s.SameFaces t)
    (agents : t.find? .agent key = s.find? .agent key)
    (functions : t.find? .function key = s.find? .function key) : Idle broker key t := by
  have readAgent : t.fetch AgentSpec key = s.fetch AgentSpec key := Store.fetch_congr agents
  have readFunction : t.fetch FunctionSpec key = s.fetch FunctionSpec key :=
    Store.fetch_congr functions
  cases home : s.fetch AgentSpec key with
  | error e => exact idle_of_error (readAgent.trans home)
  | ok agent =>
    have home' := readAgent.trans home
    rw [Idle, (runOn_reconcile_of_ok broker home).2, runOn_sync] at h
    rw [Idle, (runOn_reconcile_of_ok broker home').2, runOn_sync, same.endOn_compose]
    cases valid : agent.spec.validate with
    | error e => rfl
    | ok u =>
      cases composed : (Documents.compose broker agent).endOn s with
      | error e => rfl
      | ok config =>
        simp only [valid, composed] at h ⊢
        rcases runOn_conclude_cases home (Documents.plain_of_compose composed) with
            ⟨e, refused, -⟩ | ⟨action, told, w, f, agent', run, settled, idle⟩
        · rw [← readFunction] at refused
          exact congrArg Prod.snd (runOn_conclude_of_refused refused)
        · rw [run] at h
          rcases idle with ⟨rfl, -, -, kept, status⟩ | ⟨announced, -⟩
          · have read := settled.function
            have rest : AtRest broker agent key t :=
              ⟨config, f, valid, by rw [same.endOn_compose, composed], by rw [readFunction, read],
                by rwa [read] at kept, status⟩
            have run' := (runOn_sync_of_atRest rest).2
            rw [runOn_sync, valid, same.endOn_compose, composed] at run'
            exact congrArg Prod.snd run'
          · exact absurd (congrArg Written.announced h) announced

end Reconciler

end ControlPlane
