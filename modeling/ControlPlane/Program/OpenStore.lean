import ControlPlane.Files.System
import ControlPlane.Json.Printer
import ControlPlane.Json.Reader
import ControlPlane.Program.Error
import ControlPlane.Settings.Places
import ControlPlane.Store.Saved

/-!
Open stores: one that lasts as long as the program, or one that is kept in a file of a directory.
-/

namespace ControlPlane

/-- A store that the program works on. -/
inductive OpenStore where
  | memory (store : Store RecordId)
  /-- The records are kept in the file at a path. -/
  | kept (path : String) (store : Store ByteAddress)

namespace OpenStore

variable {α : Type}

/-- Lets something act on the store, whatever its addresses are. -/
def act (s : OpenStore) (f : (κ : Type) → [Address κ] → Store κ → α × Store κ) : α × OpenStore :=
  match s with
  | memory store =>
    let (a, store) := f RecordId store
    (a, memory store)
  | kept path store =>
    let (a, store) := f ByteAddress store
    (a, kept path store)

/-- Runs a routine on the store. -/
def run (s : OpenStore) (r : Routine α) : α × OpenStore :=
  s.act fun _ _ store =>
    let (a, written) := r.runOn store
    (a, written.store)

/-- The records of the store as one value. -/
def toJson (s : OpenStore) : Json := (s.act fun _ _ store => (store.toJson, store)).1

/-- The identities that the store has left to give. -/
def uids (s : OpenStore) : UidSupply := (s.act fun _ _ store => (store.uids, store)).1

/-! ### Opening and keeping -/

/-- The name of the file that a durable store is kept in. -/
def fileName : String := "db"

/-- The store whose records are kept in a file; there are none before there is a file. -/
def ofFile (uids : UidSupply) (files : FileSystem) (path : String) :
    Except OpeningFault (Store ByteAddress) :=
  match files.look path with
  | .error .absent => .ok (.empty uids)
  | .error e => .error (.file e)
  | .ok (.directory _) => .error (.file .isDirectory)
  | .ok (.file content) =>
    let saved := (String.fromUTF8? content).bind Json.read?
    match saved.bind (Store.ofJson? uids) with
    | some store => .ok store
    | none => .error .damaged

/-- Opens the store of a directory, which is made if it is absent. -/
def ofDirectory (uids : UidSupply) (files : FileSystem) (directory : String) :
    Except OpeningFault (OpenStore × FileSystem) := do
  let files ← (files.makeDirectories directory).mapError (.directory directory)
  let path := Path.join directory fileName
  pure (kept path (← ofFile uids files path), files)

/-- Opens the store of settings. -/
def ofSettings (s : StoreSettings) (environment : Variables) (uids : UidSupply)
    (files : FileSystem) : Except ProgramError (OpenStore × FileSystem) :=
  match s.backend with
  | .memory => .ok (memory (.empty uids), files)
  | .durable => do
    let directory ← (s.directory environment).mapError .settings
    (ofDirectory uids files directory).mapError (.unopened directory)

/-- The files with the records of a durable store written. -/
def save (s : OpenStore) (files : FileSystem) : FileSystem :=
  match s with
  | memory _ => files
  | kept path store => files.graft (.file store.toJson.compact.toUTF8) path

end OpenStore

end ControlPlane
