import ControlPlane.Reconcile.Composition

/-!
Derivation: the function that an agent should have, and whether a stored function is that one.
-/

namespace ControlPlane

namespace AgentSpec

/-- Refuses a response source without a topic. -/
def validate (s : AgentSpec) : Except ReconcileError Unit :=
  match s.responseSource with
  | some source => if source.topic?.isNone then .error .validation else .ok ()
  | none => .ok ()

end AgentSpec

/-- The name of the package that runs every agent, and of its module. -/
def agentPackage : String := "agent"

namespace FunctionRecord

/-- The function of an agent with its configuration documents. -/
def derived (agent : AgentRecord) (config : Documents) : FunctionRecord :=
  RecordOf.fresh
    { name := agent.metadata.name
      «namespace» := agent.metadata.namespace
      labels := .ofList [(Metadata.agentLabel, agent.metadata.name)] }
    { displayName := agent.spec.displayName
      description := agent.spec.description
      package := agentPackage
      module := agentPackage
      subscriptionName := agent.spec.subscriptionName
      sources := agent.spec.sources
      requestSource := agent.spec.requestSource
      sink := agent.spec.sink
      config }

/-- Whether a stored function differs from the intended one in its specification or labels. -/
def hasDrifted (stored intended : FunctionRecord) : Bool :=
  !stored.spec.same intended.spec || stored.metadata.labels != intended.metadata.labels

end FunctionRecord

/-- The status of an agent whose function has a status. -/
def AgentStatus.ofFunction (status : FunctionStatus) : AgentStatus := ⟨status⟩

end ControlPlane
