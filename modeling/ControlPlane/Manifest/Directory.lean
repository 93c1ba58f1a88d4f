import ControlPlane.Files.System
import ControlPlane.Manifest.Basic

/-!
The manifests of a tree of files: those of its manifest files, in the order of their paths, taken
name by name.
-/

namespace ControlPlane

/-- Why manifests cannot be loaded. -/
inductive ManifestError where
  /-- The file at a path does not declare records. -/
  | rejected (path : String) (cause : ManifestFault)
  /-- There is no tree at a path. -/
  | unreachable (path : String) (cause : FileFault)
  /-- A file is no text. -/
  | notText
  deriving DecidableEq, Inhabited

/-- The words for manifests that cannot be loaded. -/
def ManifestError.message : ManifestError → String
  | rejected path cause => "Manifest error in " ++ path ++ ": " ++ cause.message
  | unreachable path cause =>
    "Manifest error in " ++ path ++ ": IO error for operation on " ++ path ++ ": " ++ cause.message
  | notText => "I/O error: stream did not contain valid UTF-8"

namespace Manifest

/-- The extensions of manifest files. -/
def extensions : List String := ["yaml", "yml", "json"]

/-- Whether a path leads to a manifest file. -/
def isManifestPath (path : String) : Bool :=
  match Path.extension? path with
  | some e => extensions.contains e
  | none => false

/-- The manifest files of the tree at a path. -/
def filesOf (path : String) (t : FileTree) : List (String × ByteArray) :=
  (t.files.map fun f => (Path.along path f.1, f.2)).filter fun f => isManifestPath f.1

/-- The manifests of a file. -/
def ofFile (path : String) (content : ByteArray) : Except ManifestError (List Manifest) :=
  match String.fromUTF8? content with
  | some text => (ofText path text).mapError (.rejected path)
  | none => .error .notText

/-- The manifests of the tree at a path. -/
def ofTree (path : String) (t : FileTree) : Except ManifestError (List Manifest) := do
  let lists ← (filesOf path t).mapM fun f => ofFile f.1 f.2
  pure lists.flatten

/-- The manifests of what is at a path of a file system. -/
def load (files : FileSystem) (path : String) : Except ManifestError (List Manifest) := do
  let t ← (files.look path).mapError (.unreachable path)
  ofTree path t

end Manifest

end ControlPlane
