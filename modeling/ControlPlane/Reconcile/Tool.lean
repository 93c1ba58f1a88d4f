import ControlPlane.Reconcile.Error
import ControlPlane.Record.Agent
import ControlPlane.Record.Package
import ControlPlane.Store.Client

/-!
Tools: what an agent has to know to call a function. The function gives the topic, the module of
its package the description and the schemas.
-/

namespace ControlPlane

/-- What an agent has to know to call a tool. -/
structure ToolContext where
  description : String
  sourceSchema : Option String
  sinkSchema : Option String
  requestSource : String
  deriving DecidableEq, Inhabited

namespace ToolContext

def schema : Schema ToolContext where
  name := "ToolContext"
  start := ⟨"", none, none, ""⟩
  fields := [
    .of "description" .refused .text (·.description) fun t v => { t with description := v },
    .of "sourceSchema" .preset (.option .text) (·.sourceSchema)
      (fun t v => { t with sourceSchema := v }) Option.isNone,
    .of "sinkSchema" .preset (.option .text) (·.sinkSchema)
      (fun t v => { t with sinkSchema := v }) Option.isNone,
    .of "requestSource" .refused .text (·.requestSource) fun t v => { t with requestSource := v }]

def form : Form ToolContext := schema.form

/-- The tool that a function is, given its package. -/
def of (function : FunctionRecord) (package : PackageRecord) : Except ResolveError ToolContext := do
  let some module := package.spec.modules.find? function.spec.module
    | throw (.moduleNotFound function.spec.module function.spec.package)
  let some topic := function.spec.requestSource.bind Source.topic?
    | throw (.missingRequestSource function.metadata.name)
  pure {
    description := function.spec.description ++ "\n" ++ module.description
    sourceSchema := nonEmpty module.sourceSchema
    sinkSchema := nonEmpty module.sinkSchema
    requestSource := topic }
where
  nonEmpty (s : String) : Option String := if s.isEmpty then none else some s

end ToolContext

/-- The key of the package that a function is made from. -/
def FunctionRecord.packageKey (f : FunctionRecord) : RecordKey :=
  ⟨f.metadata.namespace, f.spec.package⟩

/-- Resolves a tool reference as seen from a namespace. -/
def ToolReference.resolve (tool : ToolReference) (home : String) :
    Attempt ResolveError ToolContext := do
  let function ← (Client.get FunctionSpec (tool.key home)).mapError (.function tool.text)
  let package ←
    (Client.get PackageSpec (FunctionRecord.packageKey function)).mapError
      (.package function.spec.package)
  .ofExcept (ToolContext.of function package)

end ControlPlane
