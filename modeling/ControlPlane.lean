import ControlPlane.Json.Printer
import ControlPlane.Json.Reader
import ControlPlane.Text.Quoted
import ControlPlane.Text.Width
import ControlPlane.Form.Basic
import ControlPlane.Record.Key
import ControlPlane.Record.Agent
import ControlPlane.Record.Package
import ControlPlane.Record.Ownership
import ControlPlane.Store.Routine
import ControlPlane.Store.Basic
import ControlPlane.Reconcile.Invocation
import ControlPlane.WorkQueue.Timed
import ControlPlane.Controller.Pass
import ControlPlane.Store.World
import ControlPlane.Controller.Running
import ControlPlane.Yaml.Fault
import ControlPlane.Yaml.Glyph
import ControlPlane.Yaml.Scalar
import ControlPlane.Yaml.Tag
import ControlPlane.Yaml.Token
import ControlPlane.Yaml.Node
import ControlPlane.Yaml.Value
import ControlPlane.Files.Path
import ControlPlane.Files.System
import ControlPlane.Yaml.Data
import ControlPlane.Manifest.Application
import ControlPlane.Manifest.Directory
import ControlPlane.Toml.Number
import ControlPlane.Toml.Reader
import ControlPlane.Settings.Setting
import ControlPlane.Settings.Source
import ControlPlane.Text.Characters
import ControlPlane.Settings.Reading
import ControlPlane.Settings.Error
import ControlPlane.Settings.Loading
import ControlPlane.Yaml.Printer
import ControlPlane.CommandLine.Basic
import ControlPlane.Text.Table
import ControlPlane.Report.Reconciliation
import ControlPlane.Report.Status
import ControlPlane.Log.Directive
import ControlPlane.Log.Start
import ControlPlane.Files.Change
import ControlPlane.Program.Basic
import ControlPlane.Main
import ControlPlane.Ini.Reader
import ControlPlane.Json.Relaxed
import ControlPlane.Proofs.Dictionary
import ControlPlane.Proofs.Form.Faithful
import ControlPlane.Proofs.Record.Faithful
import ControlPlane.Proofs.Store.Calls
import ControlPlane.Proofs.Reconcile.Composition
import ControlPlane.Proofs.Record.Ownership
import ControlPlane.Proofs.Reconcile.Calls
import ControlPlane.Proofs.Reconcile.Alone
import ControlPlane.Proofs.Reconcile.Idempotence
import ControlPlane.Proofs.Reconcile.Faces
import ControlPlane.Proofs.Controller.Passes
import ControlPlane.Proofs.Store.Deletion
import ControlPlane.Proofs.Store.Interference
import ControlPlane.Proofs.Reconcile.Orphans
import ControlPlane.Proofs.WorkQueue.Discipline
import ControlPlane.Proofs.Reconcile.OwnCalls
import ControlPlane.Proofs.Reconcile.Unnoticed
import ControlPlane.Proofs.Controller.Loop
import ControlPlane.Proofs.Controller.Delivery
import ControlPlane.Proofs.Controller.Quiescence
import ControlPlane.Proofs.Controller.Schedule
import ControlPlane.Proofs.Store.Versions
import ControlPlane.Proofs.Store.Pool
import ControlPlane.Proofs.Store.Race
import ControlPlane.Proofs.Store.Tracking
import ControlPlane.Proofs.Reconcile.Failure
import ControlPlane.Proofs.Reconcile.SameKey
import ControlPlane.Proofs.Reconcile.DistinctKeys
import ControlPlane.Proofs.Reconcile.Restart
import ControlPlane.Proofs.Store.OwnKeys
import ControlPlane.Proofs.Reconcile.Effect
import ControlPlane.Proofs.Store.ByteOrder
import ControlPlane.Proofs.Store.Backends
import ControlPlane.Proofs.Store.Cascade
import ControlPlane.Proofs.Store.Replica
import ControlPlane.Proofs.Reconcile.Isolation
import ControlPlane.Proofs.WorkQueue.Staffed
import ControlPlane.Proofs.WorkQueue.SingleFlight
import ControlPlane.Proofs.WorkQueue.Release
import ControlPlane.Proofs.Controller.Bookkeeping
import ControlPlane.Proofs.Json.Sameness
import ControlPlane.Proofs.Manifest.Declared
import ControlPlane.Proofs.Manifest.Application
import ControlPlane.Proofs.Files.Walk
import ControlPlane.Proofs.Manifest.Loading
import ControlPlane.Proofs.Record.Shapes
import ControlPlane.Proofs.Store.Readable
import ControlPlane.Proofs.Controller.Readability
import ControlPlane.Proofs.Record.Exclusive
import ControlPlane.Proofs.Record.Conversion
import ControlPlane.Proofs.Reconcile.Resolution
import ControlPlane.Proofs.Manifest.Aftermath
import ControlPlane.Proofs.WorkQueue.Backoff
import ControlPlane.Proofs.Store.KeyOrder
import ControlPlane.Proofs.Report.Status
import ControlPlane.Proofs.Store.Unreliable
import ControlPlane.Proofs.Store.Engine
import ControlPlane.Proofs.Controller.Disturbed
import ControlPlane.Proofs.Controller.Outstanding
import ControlPlane.Proofs.Reconcile.Disturbed
import ControlPlane.Proofs.Report.Reconciliation
import ControlPlane.Proofs.Reconcile.AgentName
import ControlPlane.Proofs.WarningLog
import ControlPlane.Proofs.Record.Generation
import ControlPlane.Proofs.Settings.Environment
