import ControlPlane.Program.Error
import ControlPlane.Reconcile.AgentName
import ControlPlane.Report.Reconciliation
import ControlPlane.Report.Status

/-!
The commands that end by themselves. Each gives a text; whether a report has the format that is
asked for is only looked at when its work is done.
-/

namespace ControlPlane

namespace Command

/-- The text of a report, or the refusal of its format. -/
def rendered (format : String) (known : String × String) (text : Option String) :
    Attempt ProgramError String :=
  .ofExcept (text.elim (.error (.unknownFormat format known)) .ok)

/-- Applies the manifests at a path, makes a pass over all agents, and reports. -/
def performReconcile (broker : BrokerSettings) (files : FileSystem) (time : Timestamp)
    (manifests format : String) : Attempt ProgramError String := do
  let loaded ← .ofExcept ((Manifest.load files manifests).mapError .manifest)
  let report ← (ReconciliationReport.make broker time loaded).mapError .store
  rendered format ("yaml", "json") (report.render? format)

/-- Reports on the agents of a namespace, or of all. -/
def performStatus (format : String) (ns : Option String) : Attempt ProgramError String := do
  let entries ← (StatusEntry.collect ns).mapError .store
  rendered format ("text", "json") (StatusEntry.render? format entries)

/-- The identifier of a name. -/
def performNormalize (name : String) : Attempt ProgramError String :=
  pure (AgentName.identifier name)

end Command

end ControlPlane
