import ControlPlane.Proofs.Reconcile.Alone

/-!
A second invocation with nothing in between. It writes nothing unless the first one changed what the
second one composes, or control of the function was contested: `reconcile_again_idle_iff` is exact,
`reconcile_again_idle` gives the usual case of an agent that does not name its own function as a
tool. An agent that does may be written for again and again (`ownTool_again_updated`).
-/

namespace ControlPlane

variable {κ : Type} [Address κ]

/-- What an invocation tells after one that told this, if it finds nothing to do. -/
def Reconciled.again : Reconciled → Reconciled
  | agentNotFound => agentNotFound
  | synced .. => synced .unchanged false

namespace Reconciler

variable {broker : BrokerSettings} {key : RecordKey} {s : Store κ} {outcome : Reconciled}
  {w : Written κ}

/-- Only control of a stored function can be contested. -/
theorem contested_before_iff {agent : AgentRecord} {config : Documents}
    {read : Except StoreError FunctionRecord} :
    Metadata.Contested .agent agent.metadata (before agent config read) ↔
      ∃ stored, read = .ok stored ∧
        Metadata.Contested .agent agent.metadata stored.metadata := by
  cases read with
  | ok stored => simp [before]
  | error e =>
    simp only [reduceCtorEq, false_and, exists_const, iff_false]
    rintro ⟨-, r, mem, -⟩
    cases mem

/-- What an invocation left is at rest exactly if its documents are composed again and control of
the function was not contested. -/
theorem Settled.atRest_iff {agent agent' : AgentRecord} {config : Documents} {t : Store κ}
    {f : FunctionRecord} (h : Settled agent config key s t f agent')
    (valid : agent.spec.validate = .ok ())
    (composed : (Documents.compose broker agent).endOn s = .ok config) :
    AtRest broker agent' key t ↔
      (Documents.compose broker agent).endOn t = (Documents.compose broker agent).endOn s ∧
      ¬ Metadata.Contested .agent agent.metadata
        (before agent config (s.fetch FunctionSpec key)) := by
  rw [composed, ← h.wants.compose_eq]
  constructor
  · rintro ⟨config', f', -, composed', read, kept, -⟩
    obtain rfl := Except.ok.inj (h.function.symm.trans read)
    have plain := Documents.plain_of_compose composed'
    refine ⟨?_, fun contested => ?_⟩
    · obtain ⟨stored, m, same, -, -, spec, -⟩ := (verdict_kept_iff plain).mp kept
      obtain rfl := Except.ok.inj same
      rw [composed', h.wants.intended_eq] at *
      exact congrArg Except.ok (congrArg FunctionSpec.config (spec.symm.trans h.derived.spec))
    · obtain ⟨e, refused⟩ := h.refused contested (intended agent' config')
      rw [kept] at refused
      cases refused
  · rintro ⟨composed', uncontested⟩
    refine ⟨config, f, ?_, composed', h.function, ?_, h.status⟩
    · rw [h.wants.spec, valid]
    · exact h.kept (Documents.plain_of_compose composed) uncontested

/-- After an invocation that succeeded, a second one makes no write, announces nothing and tells
that there was nothing to do, exactly if the first one left the agent's documents as they were and
did not take the function over from another controller of it. -/
theorem reconcile_again_idle_iff (first : (reconcile broker key).run.runOn s = (.ok outcome, w)) :
    ((reconcile broker key).run.ReadsOn w.store ∧
      (reconcile broker key).run.runOn w.store = (.ok outcome.again, ⟨w.store, []⟩)) ↔
    ∀ agent, s.fetch AgentSpec key = .ok agent →
      (Documents.compose broker agent).endOn w.store = (Documents.compose broker agent).endOn s ∧
      ∀ stored, s.fetch FunctionSpec key = .ok stored →
        ¬ Metadata.Contested .agent agent.metadata stored.metadata := by
  cases home : s.fetch AgentSpec key with
  | error e =>
    rw [(runOn_reconcile_of_error broker home).2] at first
    simp only [reduceCtorEq, false_imp_iff, implies_true, iff_true]
    obtain ⟨told, rfl⟩ := Prod.mk.inj first
    refine ⟨(runOn_reconcile_of_error broker home).1, ?_⟩
    rw [(runOn_reconcile_of_error broker home).2, told]
    split at told
    · obtain rfl := Except.ok.inj told
      rfl
    · cases told
  | ok agent =>
    rw [(runOn_reconcile_of_ok broker home).2] at first
    simp only [Except.ok.injEq, forall_eq']
    rcases runOn_sync_cases broker home with ⟨e, failed⟩ |
        ⟨config, action, told, w', f, agent', valid, composed, run, settled, -⟩
    · rw [failed] at first
      cases first
    · rw [run] at first
      obtain ⟨told, rfl⟩ := Prod.mk.inj first
      obtain rfl := Except.ok.inj told
      have rest := settled.atRest_iff valid composed
      simp only [contested_before_iff, not_exists, not_and] at rest
      obtain ⟨reads, run'⟩ := runOn_reconcile_of_ok broker settled.reread
      rw [← rest, run', reads, Reconciled.again, runOn_sync_idle_iff settled.reread]
      exact ⟨And.right, fun rest => ⟨(runOn_sync_of_atRest rest).1, rest⟩⟩

/-- The function of a new agent is created once. -/
theorem newAgent_again_idle :
    let first := (reconcile default ⟨"d", "a"⟩).run.runOn newAgent
    first.1 = .ok (.synced .created false) ∧
      (reconcile default ⟨"d", "a"⟩).run.runOn first.2.store =
        (.ok (.synced .unchanged false), ⟨first.2.store, []⟩) := by
  have first : (reconcile default ⟨"d", "a"⟩).run.runOn newAgent =
      (.ok (.synced .created false), ((reconcile default ⟨"d", "a"⟩).run.runOn newAgent).2) :=
    Prod.ext (by decide +kernel) rfl
  have noTools : (newAgent.fetch AgentSpec ⟨"d", "a"⟩).map (·.spec.tools) = .ok [] := by
    decide +kernel
  have noFunction : (newAgent.fetch FunctionSpec ⟨"d", "a"⟩).isOk = false := by decide +kernel
  refine ⟨congrArg Prod.fst first, ((reconcile_again_idle_iff first).mpr ?_).2⟩
  intro agent home
  rw [home] at noTools
  have none : agent.spec.tools = [] := Except.ok.inj noTools
  refine ⟨(Documents.compose_steady default agent newAgent).runOn_eq fun tool mem => ?_, ?_⟩
  · rw [none] at mem
    cases mem
  · intro stored read
    rw [read] at noFunction
    cases noFunction

/-- A function, an agent of the same name that uses it as a tool, and the packages of both: the
function's own and the one that runs every agent. -/
def ownTool : Store RecordId :=
  let package (name module : String) : Call :=
    .create .package ⟨{ name, «namespace» := "d" },
      .obj [("modules", .obj [(module, .obj [("description", .str name)])])], .null⟩
  let source (topic : String) : String × Json :=
    ("requestSource", .obj [("pulsar", .obj [("topic", .str topic)])])
  storeAfter [package "tools" "tool", package "agent" "agent",
    .create .function ⟨{ name := "a", «namespace» := "d" },
      .obj [("module", .str "tool"), ("package", .str "tools"), source "calls"], .null⟩,
    .create .agent ⟨{ name := "a", «namespace» := "d" },
      .obj [source "asked", ("tools", .arr [.obj [("name", .str "a")]])], .null⟩]

/-- The first invocation turns the tool into the agent's function, so the second one composes
another document and writes again. -/
theorem ownTool_again_updated :
    let first := (reconcile default ⟨"d", "a"⟩).run.runOn ownTool
    let second := (reconcile default ⟨"d", "a"⟩).run.runOn first.2.store
    first.1 = .ok (.synced .updated false) ∧ second.1 = .ok (.synced .updated false) ∧
      second.2.announced ≠ [] := by
  decide +kernel

/-- An agent that does not name its own function as a tool, and whose function has at most the agent
for a controller, is at rest after an invocation that succeeded. -/
theorem reconcile_again_idle (first : (reconcile broker key).run.runOn s = (.ok outcome, w))
    (apart : ∀ agent, s.fetch AgentSpec key = .ok agent → ∀ tool ∈ agent.spec.tools,
      Address.of (κ := κ) .function (tool.key agent.metadata.namespace) ≠ Address.of .function key)
    (alone : ∀ stored, s.fetch FunctionSpec key = .ok stored →
      ∀ r ∈ stored.metadata.ownerReferences, r.controller = true →
        ∀ held, stored.metadata.controller? = some held → r.names held.kind held.uid = true) :
    (reconcile broker key).run.ReadsOn w.store ∧
      (reconcile broker key).run.runOn w.store = (.ok outcome.again, ⟨w.store, []⟩) := by
  rw [reconcile_again_idle_iff first]
  intro agent home
  constructor
  · rw [(runOn_reconcile_of_ok broker home).2] at first
    rcases runOn_sync_cases broker home with ⟨e, failed⟩ |
        ⟨config, action, told, w', f, agent', valid, composed, run, settled, -⟩
    · rw [failed] at first
      cases first
    · rw [run] at first
      obtain ⟨-, rfl⟩ := Prod.mk.inj first
      refine (Documents.compose_steady broker agent s).runOn_eq fun tool mem => ⟨?_, fun g _ => ?_⟩
      · exact settled.others .function _ (apart agent home tool mem)
          (Address.function_ne_agent _ key)
      · exact settled.others .package _ (Address.of_ne_of_kind (by decide) _ key)
          (Address.of_ne_of_kind (by decide) _ key)
  · rintro stored read ⟨⟨held, found, named, -⟩, r, mem, controls, unnamed⟩
    have same := alone stored read r mem controls held found
    simp only [OwnerReference.names, Bool.and_eq_true, beq_iff_eq] at named same
    simp [OwnerReference.names, same.1, same.2, named.1, named.2] at unnamed

end Reconciler

end ControlPlane
