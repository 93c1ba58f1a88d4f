/-!
Paths: texts that name places in a tree of files, their parts parted by slashes.
-/

namespace ControlPlane.Path

/-- Whether a path starts at the root. -/
def isAbsolute (path : String) : Bool := path.startsWith "/"

/-- The parts of a path; empty parts and single points name nothing. -/
def parts (path : String) : List String :=
  ((path.splitOn "/").filter fun p => p != "" && p != ".")

/-- The path that leads from a place along a second path. -/
def join (path more : String) : String :=
  if isAbsolute more then more
  else if path.isEmpty || path.endsWith "/" then path ++ more
  else path ++ "/" ++ more

/-- The path that leads from a place along some names. -/
def along (path : String) (names : List String) : String := names.foldl join path

/-- The name of the place that a path leads to. -/
def fileName? (path : String) : Option String := (parts path).getLast?.filter (· != "..")

/-- What comes after the last point of a name that does not start with it. -/
def extensionOf? (name : String) : Option String :=
  let chars := name.toList.reverse
  let extension := chars.takeWhile (· != '.')
  match chars.drop extension.length with
  | '.' :: _ :: _ => some (String.ofList extension.reverse)
  | _ => none

/-- The extension of the name that a path leads to. -/
def extension? (path : String) : Option String := (fileName? path).bind extensionOf?

/-- The path of the directory that holds the place a path leads to; the root is in no directory. -/
def parent? (path : String) : Option String :=
  let rooted (names : List String) : String :=
    (if isAbsolute path then "/" else "") ++ String.intercalate "/" names
  match parts path with
  | [] => none
  | names => some (rooted names.dropLast)

end ControlPlane.Path
