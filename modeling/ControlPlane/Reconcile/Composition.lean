import ControlPlane.Reconcile.AgentName
import ControlPlane.Reconcile.Tool
import ControlPlane.Settings.Basic

/-!
Composition: the configuration documents that the function of an agent is given.
-/

namespace ControlPlane

/-! ### The agent document -/

/-- What the function of an agent has to know of the agent. -/
structure AgentContext where
  /-- The name of the agent as an identifier. -/
  name : String
  description : String
  instruction : String
  /-- The tools by name; absent for an agent without tools. -/
  tools : Option (Dictionary String ToolContext)
  postProcess : Option PostProcess
  deriving DecidableEq, Inhabited

namespace AgentContext

/-- The fields of the program applied to answers, in the agent document. -/
def callbackSchema : Schema PostProcess where
  name := "ProcessCallback"
  start := ⟨""⟩
  fields := [.of "jsonnet" .refused .text (·.jsonnet) fun _ v => ⟨v⟩]

def schema : Schema AgentContext where
  name := "AgentContext"
  start := ⟨"", "", "", none, none⟩
  fields := [
    .of "name" .refused .text (·.name) fun c v => { c with name := v },
    .of "description" .refused .text (·.description) fun c v => { c with description := v },
    .of "instruction" .refused .text (·.instruction) fun c v => { c with instruction := v },
    .of "tools" .preset (.option (.dictionary ToolContext.form)) (·.tools)
      (fun c v => { c with tools := v }) Option.isNone,
    .of "post_process" .preset (.option callbackSchema.form) (·.postProcess)
      (fun c v => { c with postProcess := v }) Option.isNone]

def form : Form AgentContext := schema.form

/-- Resolves the tools of a list, a later one of a name replacing an earlier one. -/
def resolveTools (home : String) : List ToolReference → Dictionary String ToolContext →
    Attempt ReconcileError (Dictionary String ToolContext)
  | [], found => pure found
  | tool :: rest, found => do
    let context ← (tool.resolve home).mapError (.toolResolution tool.text)
    resolveTools home rest (found.insert tool.name context)

/-- The agent document of an agent. -/
def compose (agent : AgentRecord) : Attempt ReconcileError AgentContext := do
  let tools ← resolveTools agent.metadata.namespace agent.spec.tools ∅
  pure {
    name := AgentName.identifier agent.metadata.name
    description := agent.spec.description
    instruction := agent.spec.instruction
    tools := if agent.spec.tools.isEmpty then none else some tools
    postProcess := agent.spec.postProcess }

end AgentContext

/-! ### All documents -/

/-- Configuration documents by name. -/
abbrev Documents := Dictionary String Json

namespace Documents

/-- The document that tells how the message broker is reached. -/
def ofBroker (broker : BrokerSettings) : Json :=
  .obj [
    ("authParams", .str broker.authParams),
    ("authPlugin", .str broker.authPlugin),
    ("serviceUrl", .str broker.serviceUrl)]

/-- Composes the documents of an agent. -/
def compose (broker : BrokerSettings) (agent : AgentRecord) :
    Attempt ReconcileError Documents := do
  let context ←
    (AgentContext.compose agent).mapError (.compose agent.metadata.name "agent")
  pure (.ofList [
    ("model", ModelConfig.form.write .byKey agent.spec.model),
    ("pulsarRpc", ofBroker broker),
    ("responseSource", (Form.option Source.form).write .byKey agent.spec.responseSource),
    ("agent", AgentContext.form.write .byKey context)])

end Documents

end ControlPlane
