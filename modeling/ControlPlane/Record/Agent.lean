import ControlPlane.Record.Function

/-!
Agents: what a user wants. An agent names a model, the tools it may use and the channels it serves;
one function is derived from each agent.
-/

namespace ControlPlane

/-! ### Parts -/

/-- A reference to the function used as a tool. -/
structure ToolReference where
  /-- The namespace of the function; absent or empty, the namespace of the agent. -/
  «namespace» : Option String
  name : String
  deriving DecidableEq, Inhabited

namespace ToolReference

def schema : Schema ToolReference where
  name := "ToolReference"
  start := ⟨none, ""⟩
  fields := [
    .of "namespace" .preset (.option .text) (·.namespace)
      (fun t v => { t with «namespace» := v }) Option.isNone,
    .of "name" .refused .text (·.name) fun t v => { t with name := v }]

def form : Form ToolReference := schema.form

/-- The reference as it is written, with its namespace if it gives one. -/
def text (t : ToolReference) : String :=
  match t.namespace with
  | some ns => ns ++ "/" ++ t.name
  | none => t.name

/-- The key of the function that a reference made in a namespace means. -/
def key (t : ToolReference) (home : String) : RecordKey :=
  match t.namespace with
  | some ns => ⟨if ns.isEmpty then home else ns, t.name⟩
  | none => ⟨home, t.name⟩

end ToolReference

/-- The model an agent speaks with. -/
structure ModelConfig where
  model : String
  googleApiKey : String
  deriving DecidableEq, Inhabited

namespace ModelConfig

def schema : Schema ModelConfig where
  name := "ModelConfig"
  start := ⟨"", ""⟩
  fields := [
    .of "model" .refused .text (·.model) fun m v => { m with model := v },
    .of "googleApiKey" .preset .text (·.googleApiKey) (fun m v => { m with googleApiKey := v })
      String.isEmpty]

def form : Form ModelConfig := schema.form

end ModelConfig

/-- The program applied to an agent's answers. -/
structure PostProcess where
  jsonnet : String
  deriving DecidableEq, Inhabited

namespace PostProcess

def schema : Schema PostProcess where
  name := "PostProcessCallback"
  start := ⟨""⟩
  fields := [.of "jsonnet" .preset .text (·.jsonnet) (fun _ v => ⟨v⟩) String.isEmpty]

def form : Form PostProcess := schema.form

end PostProcess

/-! ### Agents -/

/-- What a user wants of an agent. -/
structure AgentSpec where
  displayName : String := ""
  description : String := ""
  instruction : String := ""
  model : ModelConfig := ⟨"", ""⟩
  subscriptionName : String := ""
  sources : List Source := []
  requestSource : Option Source := none
  responseSource : Option Source := none
  sink : Option Sink := none
  tools : List ToolReference := []
  postProcess : Option PostProcess := none
  deriving DecidableEq, Inhabited

namespace AgentSpec

/-- The fields of an agent's specification. -/
def schema : Schema AgentSpec where
  name := "AgentSpec"
  start := {}
  fields := [
    .of "displayName" .preset .text (·.displayName) (fun s v => { s with displayName := v })
      String.isEmpty,
    .of "description" .preset .text (·.description) fun s v => { s with description := v },
    .of "instruction" .preset .text (·.instruction) fun s v => { s with instruction := v },
    .of "model" .preset ModelConfig.form (·.model) fun s v => { s with model := v },
    .of "subscriptionName" .preset .text (·.subscriptionName)
      (fun s v => { s with subscriptionName := v }) String.isEmpty,
    .of "sources" .preset (.list Source.form) (·.sources) (fun s v => { s with sources := v })
      List.isEmpty,
    .of "requestSource" .preset (.option Source.form) (·.requestSource)
      (fun s v => { s with requestSource := v }) Option.isNone,
    .of "responseSource" .preset (.option Source.form) (·.responseSource)
      (fun s v => { s with responseSource := v }) Option.isNone,
    .of "sink" .preset (.option Sink.form) (·.sink) (fun s v => { s with sink := v })
      Option.isNone,
    .of "tools" .preset (.list ToolReference.form) (·.tools) (fun s v => { s with tools := v })
      List.isEmpty,
    .of "postProcess" .preset (.option PostProcess.form) (·.postProcess)
      (fun s v => { s with postProcess := v }) Option.isNone]

def form : Form AgentSpec := schema.form

end AgentSpec

/-- What is known of the function derived from an agent. -/
structure AgentStatus where
  functionStatus : FunctionStatus := {}
  deriving DecidableEq, Inhabited

namespace AgentStatus

def schema : Schema AgentStatus where
  name := "AgentStatus"
  start := {}
  fields := [
    .of "functionStatus" .preset FunctionStatus.form (·.functionStatus) fun _ v => ⟨v⟩]

def form : Form AgentStatus := schema.form

end AgentStatus

abbrev AgentRecord := RecordOf AgentSpec AgentStatus

instance : RecordShape AgentSpec AgentStatus where
  kind := .agent
  spec := AgentSpec.schema
  status := AgentStatus.form
  noStatus := {}

end ControlPlane
