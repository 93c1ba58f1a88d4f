import ControlPlane.Controller.Running
import ControlPlane.Files.Change
import ControlPlane.Program.Commands
import ControlPlane.Text.Table

/-!
The command that works until it is stopped. Manifests are applied first; then a controller works on
the store, and manifests that change are applied again if that is asked for. Manifests that cannot
be loaded are passed over, and a record that the store refuses ends their application.
-/

namespace ControlPlane

/-- The table of the latest warnings of some keys, seen at a time. -/
def WarningLog.table (time : String) (outstanding : List (RecordKey × Warning)) : Table where
  header := ["Agent", "Reason", "Count", "Last Seen", "Message"]
  rows := outstanding.map fun (key, w) =>
    [key.text, w.reason, toString w.count, time, w.message]

/-- A controller at work, and the failure that kept it from starting. -/
structure Service (κ : Type) [Address κ] where
  running : Running Empty κ
  failure : Option StoreError := none

namespace Service

variable {κ : Type} [Address κ]

/-- Lets the controller work until nothing is left to do at this moment. -/
def settle (x : Service κ) : Service κ :=
  { x with running := x.running.quiesce Running.patience }

/-- Starts a controller on a store. -/
def start (settings : Settings) (store : Store κ) : Service κ :=
  let controller := Controller.idle settings.controller settings.broker
  match Running.start ⟨store, [], [], []⟩ controller with
  | (.ok running, _) => settle ⟨running, none⟩
  | (.error e, world) => ⟨⟨world, controller, 0, 0, .stopped⟩, some e⟩

/-- Applies manifests again, and lets the controller work on what they changed. -/
def reapply (x : Service κ) (manifests : List Manifest) : Service κ :=
  let (_, world) := x.running.world.run (Manifest.applyAll manifests).run
  { x with running := { x.running with world } }.settle

/-- Whether a change touches a manifest file of the tree at a path. -/
def concerns (files : FileSystem) (manifests : String) (change : FileChange) : Bool :=
  let place := files.resolved manifests
  (change.touched files).any fun names =>
    place.isPrefixOf names && Manifest.isManifestPath (String.intercalate "/" names)

/-- Takes note of a change of the files, which are given as they were before and after it. -/
def notice (x : Service κ) (manifests : String) (before : FileSystem) (change : FileChange)
    (after : FileSystem) : Service κ :=
  if concerns before manifests change then
    match Manifest.load after manifests with
    | .ok loaded => x.reapply loaded
    | .error _ => x
  else x

/-- Stops the controller; the text tells the warnings that are left. -/
def finish (x : Service κ) (time : Timestamp) : Except ProgramError String × Store κ :=
  let running := x.running.stop
  let outstanding := running.controller.log.outstanding
  let text :=
    if outstanding.isEmpty then "Controller stopped"
    else "Controller stopped\n" ++ (WarningLog.table time.short outstanding).render
  (x.failure.elim (.ok text) fun e => .error (.store e), running.world.store)

end Service

namespace Command

variable {κ : Type} [Address κ]

/-- Loads and applies manifests. -/
def prepare (files : FileSystem) (manifests : String) : Attempt ProgramError Unit := do
  let loaded ← .ofExcept ((Manifest.load files manifests).mapError .manifest)
  let _ ← (Manifest.applyAll loaded).mapError .store
  pure ()

/-- The files and the service after some changes; only changes of watched manifests are noticed. -/
def live (watched : Option String) (changes : List FileChange) (files : FileSystem)
    (x : Service κ) : FileSystem × Service κ :=
  changes.foldl (fun (files, x) change =>
    let after := change.apply files
    match watched with
    | some manifests => (after, x.notice manifests files change after)
    | none => (after, x)) (files, x)

/-- Works on a store while the files change, until there are no more changes. -/
def performRun (settings : Settings) (time : Timestamp) (manifests : Option String)
    (watch : Bool) (changes : List FileChange) (files : FileSystem) (store : Store κ) :
    (Except ProgramError String × FileSystem) × Store κ :=
  let (prepared, written) := (manifests.forM (prepare files)).run.runOn store
  match prepared with
  | .error e => ((.error e, files), written.store)
  | .ok () =>
    let watched := if watch then manifests else none
    let (files, x) := live watched changes files (Service.start settings written.store)
    let (result, store) := x.finish time
    ((result, files), store)

end Command

end ControlPlane
