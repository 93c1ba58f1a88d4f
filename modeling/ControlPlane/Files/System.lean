import ControlPlane.Files.Tree

/-!
A file system: a tree and a place in it from which relative paths lead on.
-/

namespace ControlPlane

/-- A tree of files, and the names that lead to the working directory. -/
structure FileSystem where
  root : FileTree
  workingDirectory : List String := []
  deriving Inhabited

namespace FileSystem

/-- Goes along some names, and back where one is two points; the places passed are at hand, the
last one first, and below them the root. -/
def walk (root : FileTree) : List FileTree → List String → Except FileFault FileTree
  | passed, [] => .ok (passed.headD root)
  | passed, name :: rest =>
    match passed.headD root with
    | .file _ => .error .notDirectory
    | place =>
      if name = ".." then walk root passed.tail rest
      else
        match place.entry? name with
        | .ok child => walk root (child :: passed) rest
        | .error e => .error e

/-- The names that a path leads along from the root. -/
def names (s : FileSystem) (path : String) : List String :=
  if Path.isAbsolute path then Path.parts path else s.workingDirectory ++ Path.parts path

/-- What a path leads to. -/
def look (s : FileSystem) (path : String) : Except FileFault FileTree := do
  if path.isEmpty then throw .absent
  match ← walk s.root [] (s.names path) with
  | .file content => if path.endsWith "/" then throw .notDirectory else pure (.file content)
  | place => pure place

/-- The names that a path leads along, those taken back left out. -/
def resolved (s : FileSystem) (path : String) : List String :=
  ((s.names path).foldl (fun passed name =>
    if name = ".." then passed.tail else name :: passed) []).reverse

/-- Whether a path leads to a directory. -/
def isDirectory (s : FileSystem) (path : String) : Bool :=
  match s.look path with
  | .ok (.directory _) => true
  | _ => false

/-- The file system with a file or directory put where a path leads. -/
def graft (s : FileSystem) (t : FileTree) (path : String) : FileSystem :=
  { s with root := t.graft s.root (s.resolved path) }

/-- The file system without what a path leads to. -/
def prune (s : FileSystem) (path : String) : FileSystem :=
  { s with root := s.root.prune (s.resolved path) }

/-- Makes a directory and those that lead to it, as far as they are absent. -/
def makeDirectories (s : FileSystem) (path : String) : Except FileFault FileSystem :=
  if path.isEmpty || s.isDirectory path then .ok s
  else
    match s.look path with
    | .ok _ => .error .exists
    | .error .absent => .ok (s.graft (.directory []) path)
    | .error e => .error e

/-- Opens a file to write at its end; an absent one is made. -/
def append (s : FileSystem) (path : String) : Except FileFault FileSystem :=
  match s.look path with
  | .ok (.directory _) => .error .isDirectory
  | .ok (.file _) => .ok s
  | .error .absent =>
    if path.endsWith "/" then .error .isDirectory
    else .ok (s.graft (.file .empty) path)
  | .error e => .error e

end FileSystem

end ControlPlane
