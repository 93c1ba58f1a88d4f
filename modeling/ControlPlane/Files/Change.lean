import ControlPlane.Files.System

/-!
Changes of a file system while the program works: some places are removed, and then some files and
directories are put.
-/

namespace ControlPlane

/-- A change of a file system, its places given by their paths. -/
structure FileChange where
  removed : List String := []
  put : List (String × FileTree) := []
  deriving Inhabited

namespace FileChange

/-- The file system after a change. -/
def apply (c : FileChange) (s : FileSystem) : FileSystem :=
  c.put.foldl (fun s p => s.graft p.2 p.1) (c.removed.foldl FileSystem.prune s)

/-- A place and the files below it, by the names that lead to them from the root. -/
def below (names : List String) (t : FileTree) : List (List String) :=
  names :: t.files.map fun f => names ++ f.1

/-- The places that a change of a file system touches. -/
def touched (c : FileChange) (s : FileSystem) : List (List String) :=
  (c.removed.flatMap fun path =>
    match s.look path with
    | .ok t => below (s.resolved path) t
    | .error _ => []) ++ c.put.flatMap fun p => below (s.resolved p.1) p.2

/-- The change from one tree at a path to another: the files that are gone, and those that are
new or have another content. -/
def between (path : String) (before after : FileTree) : FileChange where
  removed := (before.files.filter fun f => !after.files.any fun g => g.1 == f.1).map fun f =>
    Path.along path f.1
  put := (after.files.filter fun f => !before.files.any fun g => g.1 == f.1 && g.2 == f.2).map
    fun f => (Path.along path f.1, .file f.2)

/-- Whether a change leaves everything as it is. -/
def isNothing (c : FileChange) : Bool := c.removed.isEmpty && c.put.isEmpty

end FileChange

end ControlPlane
