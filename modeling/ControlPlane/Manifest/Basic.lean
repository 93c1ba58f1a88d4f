import ControlPlane.Record.Agent
import ControlPlane.Record.Package
import ControlPlane.Yaml.Data

/-!
Manifests: records declared in texts of several documents. Each document that is not empty
declares one record, which must be of the form of its kind.
-/

namespace ControlPlane

/-- Whether a record is of the form of a kind. -/
def Record.conforms (kind : Kind) (r : Record) : Except FormError Unit :=
  match kind with
  | .agent => (RecordOf.ofUntyped (σ := AgentSpec) r).map fun _ => ()
  | .function => (RecordOf.ofUntyped (σ := FunctionSpec) r).map fun _ => ()
  | .package => (RecordOf.ofUntyped (σ := PackageSpec) r).map fun _ => ()

/-- A declared record, and the path of the text that declares it. -/
structure Manifest where
  source : String
  kind : Kind
  record : Record
  deriving Inhabited

/-- Why a document declares no record. -/
inductive ManifestFault where
  /-- The text is no YAML. -/
  | unreadable (cause : Yaml.Fault)
  | key (cause : Yaml.KeyFault)
  | form (cause : FormError)
  | unknownKind (name : String)
  | nameless (kind : Kind)
  /-- The record is not of the form of its kind. -/
  | invalid (name : String) (cause : FormError)
  deriving DecidableEq, Inhabited

/-- The words for a document that declares no record. -/
def ManifestFault.message : ManifestFault → String
  | unreadable cause => cause.message
  | key cause => cause.message
  | form cause => cause.message
  | unknownKind name => "unknown kind '" ++ name ++ "'"
  | nameless kind => kind.text ++ " without metadata.name"
  | invalid name cause => name ++ " is invalid: " ++ cause.message

namespace Manifest

/-- The key of the declared record. -/
def key (m : Manifest) : RecordKey := m.record.key

/-- What a document says, before its kind is known to exist. -/
structure Declaration where
  kind : String
  record : Record

/-- The fields of a document. -/
def Declaration.schema : Schema Declaration where
  name := "Document"
  start := ⟨"", ⟨{ name := "" }, .null, .null⟩⟩
  fields := [
    .of "kind" .refused .text (·.kind) fun d v => { d with kind := v },
    .of "metadata" .refused Metadata.form (·.record.metadata)
      fun d v => { d with record := { d.record with metadata := v } },
    .of "spec" .preset .free (·.record.spec)
      fun d v => { d with record := { d.record with spec := v } },
    .of "status" .preset .free (·.record.status)
      fun d v => { d with record := { d.record with status := v } }]

/-- The namespace of records that are declared without one. -/
def defaultNamespace : String := "default"

/-- The record with a namespace. -/
def placed (r : Record) : Record :=
  if r.metadata.namespace.isEmpty then
    { r with metadata := { r.metadata with «namespace» := defaultNamespace } }
  else r

/-- The record that a document declares. -/
def ofDocument (source : String) (v : Yaml.Value) : Except ManifestFault Manifest := do
  let j ← v.toJson.mapError .key
  let d ← (Declaration.schema.read j).mapError .form
  match Kind.ofText? d.kind with
  | none => throw (.unknownKind d.kind)
  | some kind =>
    if d.record.metadata.name.isEmpty then throw (.nameless kind)
    let record := placed d.record
    (record.conforms kind).mapError (.invalid record.metadata.name)
    pure ⟨source, kind, record⟩

/-- The records that documents declare, up to the first that declares none; empty documents are
passed over. -/
def ofDocuments (source : String) : List (Except Yaml.Fault Yaml.Value) →
    Except ManifestFault (List Manifest)
  | [] => .ok []
  | .error e :: _ => .error (.unreadable e)
  | .ok v :: rest =>
    if v.isNull then ofDocuments source rest
    else do
      let m ← ofDocument source v
      pure (m :: (← ofDocuments source rest))

/-- The records that a text declares. -/
def ofText (source text : String) : Except ManifestFault (List Manifest) :=
  ofDocuments source (Yaml.Value.documents text)

end Manifest

end ControlPlane
