import ControlPlane.Files.System
import ControlPlane.Settings.Places
import ControlPlane.Settings.Source
import ControlPlane.Text.Utf8

/-!
Loading settings: the usual file, then the file that is asked for, then the environment, each put
over what came before.
-/

namespace ControlPlane.Settings

/-! ### Finding files -/

/-- A file of settings: its path from the root, its format and its content. -/
structure FoundFile where
  path : String
  format : Setting.Format
  content : ByteArray

/-- The working directory as a path. -/
def here (files : FileSystem) : String := "/" ++ String.intercalate "/" files.workingDirectory

/-- The content of a file; directories have none. -/
def contentOf? (files : FileSystem) (path : String) : Option ByteArray :=
  match files.look path with
  | .ok (.file content) => some content
  | _ => none

/-- The file at a path, or the first that is there when extensions are put behind the path. -/
def find (files : FileSystem) (path : String) : Except SettingsError FoundFile :=
  let full := Path.join (here files) path
  match contentOf? files full with
  | some content =>
    match (Path.extension? full).bind Setting.formatOf? with
    | some format => .ok ⟨full, format, content⟩
    | none => .error (.unregistered full)
  | none =>
    let candidates := Setting.formats.flatMap fun f => f.2.map fun e => (f.1, full ++ "." ++ e)
    match candidates.findSome? fun c => (contentOf? files c.2).map fun content =>
        (⟨c.2, c.1, content⟩ : FoundFile) with
    | some file => .ok file
    | none => .error (.unnamed path)

/-! ### Layers -/

/-- The path from a directory to a place, both given by the names that lead to them. -/
def relative (directory place : List String) : String :=
  match directory, place with
  | d :: ds, p :: ps =>
    if d = p then relative ds ps
    else String.intercalate "/" ((d :: ds).map (fun _ => "..") ++ p :: ps)
  | ds, ps => String.intercalate "/" (ds.map (fun _ => "..") ++ ps)

/-- The text of a file, without a mark of its byte order. -/
def textOf (content : ByteArray) : String :=
  Text.ofBytes (if content.toList.take 3 = [0xef, 0xbb, 0xbf] then content.extract 3 content.size
    else content)

/-- The layer that a file gives. -/
def layer (files : FileSystem) (file : FoundFile) :
    Except SettingsError (List (String × Setting)) :=
  let origin := relative files.workingDirectory (Path.parts file.path)
  match Setting.layerOfText file.format origin (textOf file.content) with
  | some layer => .ok layer
  | none => .error (.unparsable origin)

/-- The layer of the usual file; there is none if the file is not there. -/
def usualLayer (files : FileSystem) (environment : Variables) :
    Except SettingsError (List (String × Setting)) :=
  match environment.settingsFile.bind (find files) with
  | .ok file => layer files file
  | .error _ => .ok []

/-- The layer of a file that is asked for. -/
def askedLayer (files : FileSystem) (path : String) :
    Except SettingsError (List (String × Setting)) := (find files path).bind (layer files)

/-- Refuses a path that leads nowhere. -/
def demand (files : FileSystem) (path : String) : Except SettingsError Unit :=
  match files.look path with
  | .ok _ => .ok ()
  | .error _ => .error (.absent path)

/-- The settings that layers and the environment give. -/
def ofLayers (layers : List (List (String × Setting))) (environment : Variables) :
    Except SettingsError Settings := do
  let root := (layers ++ [Setting.ofVariables environment]).foldl Setting.putLayer (.table none [])
  let s ← (ofSetting root).mapError .fault
  s.validated

/-! ### Loading -/

/-- The settings of the usual file, of a file that is asked for, and of the environment. -/
def load (files : FileSystem) (environment : Variables) (path : Option String) :
    Except SettingsError Settings := do
  match path with
  | none => ofLayers [← usualLayer files environment] environment
  | some path => do
    demand files path
    let usual ← usualLayer files environment
    ofLayers [usual, ← askedLayer files path] environment

/-- The settings of one file and of the environment. -/
def loadOnly (files : FileSystem) (environment : Variables) (path : String) :
    Except SettingsError Settings := do
  demand files path
  ofLayers [← askedLayer files path] environment

end ControlPlane.Settings
