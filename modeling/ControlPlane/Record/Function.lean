import ControlPlane.Record.Basic

/-!
Functions: what is executed. A function names the module of a package it is made from, the channels
it listens and answers on, and the configuration documents it is given.
-/

namespace ControlPlane

/-! ### Channels -/

/-- A topic of the message broker. -/
structure Topic where
  topic : String
  deriving DecidableEq, Inhabited

/-- The fields of a topic, for a reader or a writer. -/
def Topic.schema (name : String) : Schema Topic where
  name
  start := ⟨""⟩
  fields := [.of "topic" .preset .text (·.topic) fun _ v => ⟨v⟩]

/-- The form of the topic that is read from. -/
def Topic.sourceForm : Form Topic := (Topic.schema "PulsarSourceSpec").form

/-- The form of the topic that is written to. -/
def Topic.sinkForm : Form Topic := (Topic.schema "PulsarSinkSpec").form

/-- A channel that messages come from. -/
structure Source where
  pulsar : Option Topic
  deriving DecidableEq, Inhabited

namespace Source

/-- The source that reads a topic. -/
def ofTopic (topic : String) : Source := ⟨some ⟨topic⟩⟩

def schema : Schema Source where
  name := "SourceSpec"
  start := ⟨none⟩
  fields := [
    .of "pulsar" .preset (.option Topic.sourceForm) (·.pulsar) (fun _ v => ⟨v⟩) Option.isNone]

def form : Form Source := schema.form

/-- The topic of a source, if it has one that is not empty. -/
def topic? (s : Source) : Option String :=
  (s.pulsar.map (·.topic)).filter fun t => !t.isEmpty

end Source

/-- A channel that messages go to. -/
structure Sink where
  pulsar : Option Topic
  deriving DecidableEq, Inhabited

namespace Sink

/-- The sink that writes to a topic. -/
def ofTopic (topic : String) : Sink := ⟨some ⟨topic⟩⟩

def schema : Schema Sink where
  name := "SinkSpec"
  start := ⟨none⟩
  fields := [
    .of "pulsar" .preset (.option Topic.sinkForm) (·.pulsar) (fun _ v => ⟨v⟩) Option.isNone]

def form : Form Sink := schema.form

end Sink

/-! ### Functions -/

/-- What a function is made from and talks to. -/
structure FunctionSpec where
  displayName : String := ""
  description : String := ""
  package : String := ""
  module : String := ""
  subscriptionName : String := ""
  sources : List Source := []
  requestSource : Option Source := none
  sink : Option Sink := none
  /-- The configuration documents by name. -/
  config : Dictionary String Json := ∅
  deriving Inhabited

namespace FunctionSpec

/-- The fields of a function's specification. -/
def schema : Schema FunctionSpec where
  name := "FunctionSpec"
  start := {}
  fields := [
    .of "displayName" .preset .text (·.displayName) (fun s v => { s with displayName := v })
      String.isEmpty,
    .of "description" .preset .text (·.description) (fun s v => { s with description := v })
      String.isEmpty,
    .of "package" .refused .text (·.package) fun s v => { s with package := v },
    .of "module" .refused .text (·.module) fun s v => { s with module := v },
    .of "subscriptionName" .preset .text (·.subscriptionName)
      (fun s v => { s with subscriptionName := v }) String.isEmpty,
    .of "sources" .preset (.list Source.form) (·.sources) (fun s v => { s with sources := v })
      List.isEmpty,
    .of "requestSource" .preset (.option Source.form) (·.requestSource)
      (fun s v => { s with requestSource := v }) Option.isNone,
    .of "sink" .preset (.option Sink.form) (·.sink) (fun s v => { s with sink := v })
      Option.isNone,
    .of "config" .preset (.dictionary .free) (·.config) (fun s v => { s with config := v })
      Dictionary.isEmpty]

def form : Form FunctionSpec := schema.form

/-- Whether two specifications are the same, documents compared as values. -/
def same (a b : FunctionSpec) : Bool :=
  a.displayName == b.displayName && a.description == b.description && a.package == b.package &&
  a.module == b.module && a.subscriptionName == b.subscriptionName && a.sources == b.sources &&
  a.requestSource == b.requestSource && a.sink == b.sink && a.config == b.config

end FunctionSpec

/-- What is known of a function's execution. -/
structure FunctionStatus where
  replicas : Int32 := 0
  readyReplicas : Int32 := 0
  availableReplicas : Int32 := 0
  updatedReplicas : Int32 := 0
  observedGeneration : Int64 := 0
  deriving DecidableEq, Inhabited

namespace FunctionStatus

/-- The fields of a function's status. -/
def schema : Schema FunctionStatus where
  name := "FunctionStatus"
  start := {}
  fields := [
    .of "replicas" .preset .int32 (·.replicas) fun s v => { s with replicas := v },
    .of "readyReplicas" .preset .int32 (·.readyReplicas) fun s v => { s with readyReplicas := v },
    .of "availableReplicas" .preset .int32 (·.availableReplicas)
      fun s v => { s with availableReplicas := v },
    .of "updatedReplicas" .preset .int32 (·.updatedReplicas)
      fun s v => { s with updatedReplicas := v },
    .of "observedGeneration" .preset .int64 (·.observedGeneration)
      fun s v => { s with observedGeneration := v }]

def form : Form FunctionStatus := schema.form

end FunctionStatus

abbrev FunctionRecord := RecordOf FunctionSpec FunctionStatus

instance : RecordShape FunctionSpec FunctionStatus where
  kind := .function
  spec := FunctionSpec.schema
  status := FunctionStatus.form
  noStatus := {}

end ControlPlane
