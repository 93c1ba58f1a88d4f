import ControlPlane.Dictionary
import ControlPlane.Files.Path

/-!
Trees of files. The files of a tree are listed with the names that lead to them, the entries of
each directory in the order of their names.
-/

namespace ControlPlane

/-- Why a place in a tree cannot be used. -/
inductive FileFault where
  | absent
  | exists
  | notDirectory
  | isDirectory
  deriving DecidableEq, Inhabited

/-- The words for an unusable place. -/
def FileFault.message : FileFault → String
  | absent => "No such file or directory (os error 2)"
  | «exists» => "File exists (os error 17)"
  | notDirectory => "Not a directory (os error 20)"
  | isDirectory => "Is a directory (os error 21)"

/-- A file with its content, or a directory with its named entries. -/
inductive FileTree where
  | file (content : ByteArray)
  | directory (entries : List (String × FileTree))
  deriving Inhabited

namespace FileTree

mutual

/-- The files of a tree, each with the names that lead to it. -/
def files : FileTree → List (List String × ByteArray)
  | file content => [([], content)]
  | directory entries => (Entries.ofList (filesOf entries)).flatMap Prod.snd
termination_by structural x => x

/-- The files below each entry of a directory. -/
def filesOf : List (String × FileTree) → List (String × List (List String × ByteArray))
  | [] => []
  | (name, t) :: rest => (name, t.files.map fun f => (name :: f.1, f.2)) :: filesOf rest
termination_by structural x => x

end

/-- The entry of a directory. -/
def entry? (place : FileTree) (name : String) : Except FileFault FileTree :=
  match place with
  | file _ => .error .notDirectory
  | directory entries =>
    match entries.find? fun e => e.1 == name with
    | some e => .ok e.2
    | none => .error .absent

/-- A directory with an entry put in the place of another of its name. -/
def put (place : FileTree) (name : String) (t : FileTree) : FileTree :=
  match place with
  | file content => file content
  | directory entries => directory (entries.filter (fun e => e.1 != name) ++ [(name, t)])

/-- The tree with a file or directory put where some names lead, the directories on the way made
if they are absent. -/
def graft (t place : FileTree) : List String → FileTree
  | [] => t
  | name :: rest =>
    let below := match place.entry? name with
      | .ok child => child
      | .error _ => directory []
    place.put name (graft t below rest)

/-- The tree without the entry that some names lead to. -/
def prune (place : FileTree) : List String → FileTree
  | [] => place
  | [name] =>
    match place with
    | file content => file content
    | directory entries => directory (entries.filter fun e => e.1 != name)
  | name :: rest =>
    match place.entry? name with
    | .ok child => place.put name (prune child rest)
    | .error _ => place

end FileTree

end ControlPlane
