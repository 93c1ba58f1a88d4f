import ControlPlane.Program.Basic
import Std.Time.DateTime

/-!
The outermost layer: what the program needs is read from the machine, and what it wrote is put
there. A command that does not end by itself works until its input ends; meanwhile the manifests
are looked at again and again.
-/

namespace ControlPlane.Main

/-! ### Looking at files -/

/-- The content of a file; one that cannot be read is empty. -/
def contentAt (path : String) : IO ByteArray := do
  match ← (IO.FS.readBinFile path).toBaseIO with
  | .ok content => pure content
  | .error _ => pure .empty

/-- What is at a path, with everything below it. -/
partial def snapshot (path : String) : IO FileTree := do
  let place := (← IO.currentDir) / path
  if ← place.isDir then
    let entries ← (← place.readDir).toList.mapM fun e => do
      pure (e.fileName, ← snapshot (Path.join path e.fileName))
    pure (.directory entries)
  else pure (.file (← contentAt path))

/-- The file system with what is at a place and on the way to it. -/
def observe (deep : Bool) (files : FileSystem) (path : String) : IO FileSystem := do
  let names := files.names path
  let mut seen := files
  for length in List.range (names.length + 1) do
    let step := "/" ++ String.intercalate "/" (names.take length)
    let place := (← IO.currentDir) / step
    if ← place.isDir then
      if deep && length == names.length then seen := seen.graft (← snapshot step) step
      else if !seen.isDirectory step then seen := seen.graft (.directory []) step
    else
      if ← place.pathExists then seen := seen.graft (.file (← contentAt step)) step
      break
  pure seen

/-- The file system with what is at some places. -/
def observeAll (deep : Bool) (files : FileSystem) (paths : List String) : IO FileSystem :=
  paths.foldlM (observe deep) files

/-- Puts on the machine what differs from one file system to another. -/
def putBack (before after : FileSystem) : IO Unit := do
  for (path, tree) in (FileChange.between "/" before.root after.root).put do
    if let .file content := tree then
      if let some parent := Path.parent? path then IO.FS.createDirAll parent
      IO.FS.writeBinFile path content

/-! ### Looking around -/

/-- The variables of the environment. -/
def environment : IO Variables := do
  let entries := ((← contentAt "/proc/self/environ").toList.splitOn 0).filterMap fun bytes =>
    (String.fromUTF8? ⟨bytes.toArray⟩).bind fun entry =>
      match entry.splitOn "=" with
      | name :: rest => if rest.isEmpty then none else some (name, String.intercalate "=" rest)
      | [] => none
  pure (.ofList entries)

/-- The lowest digits of base sixteen of a number. -/
def lowHexDigits (count n : Nat) : List Char :=
  (List.range count).reverse.map fun i => Nat.digitChar (n / Nat.pow 16 i % 16)

/-- The identity made from a number: thirty-two digits in five groups, two of them fixed to tell how
it was made. -/
def uuid (n : Nat) : String :=
  let digits := lowHexDigits 32 n
  let part (start count : Nat) : String := String.ofList ((digits.drop start).take count)
  let variant := String.ofList [Nat.digitChar (8 + n / Nat.pow 16 15 % 4)]
  "-".intercalate
    [part 0 8, part 8 4, "4" ++ part 13 3, variant ++ part 17 3, part 20 12]

/-- Identities drawn from chance. -/
def uids : IO UidSupply := do
  let number (bytes : ByteArray) : Nat := bytes.toList.foldl (fun n b => 256 * n + b.toNat) 0
  let start := number (← IO.getRandomBytes 16)
  let step := 2 * number (← IO.getRandomBytes 16) + 1
  pure ⟨fun n => uuid (start + n * step), 0⟩

/-- The time. -/
def now : IO Timestamp := do
  pure (.ofNanoseconds (← Std.Time.Timestamp.now).toNanosecondsSinceUnixEpoch.val)

/-- The paths that settings may be found at. -/
def settingsPaths (v : Variables) (asked : Option String) : List String :=
  (v.settingsFile.toOption.toList ++ asked.toList).flatMap fun path =>
    path :: Setting.formats.flatMap fun f => f.2.map fun e => path ++ "." ++ e

/-- The paths, beside those of manifests, that the program may work at. -/
def workPaths (v : Variables) (s : Settings) : List String :=
  ((s.store.directory v).toOption.toList.flatMap fun directory =>
    [Path.join directory OpenStore.fileName]) ++ (v.logFile none s.log.file).toOption.toList

/-- The path of the manifests of a command. -/
def manifestsOf? : Command → Option String
  | .run manifests _ => manifests
  | .reconcile manifests _ => some manifests
  | _ => none

/-- What is around the program, as far as a command line concerns it. -/
def lookAround (line : CommandLine) : IO Program.Surroundings := do
  let here := (← IO.currentDir).toString
  let v ← environment
  let files ← observeAll false ⟨.directory [], Path.parts here⟩
    (here :: settingsPaths v line.settings)
  let files ← match Settings.load files v line.settings with
    | .error _ => pure files
    | .ok s =>
      let s := { s with log := line.log.applyTo s.log }
      let files ← observeAll false files (workPaths v s)
      observeAll true files (manifestsOf? line.command).toList
  pure ⟨files, v, ← uids, ← now, []⟩

/-! ### Working -/

/-- Runs the program, and puts back what it wrote. -/
def work (arguments : List String) (s : Program.Surroundings) : IO Program.Outcome := do
  let outcome := Program.run arguments s
  putBack (s.changes.foldl (fun files change => change.apply files) s.files) outcome.files
  pure outcome

/-- Works until the input ends, looking at watched manifests now and then. -/
partial def workOn (arguments : List String) (watched : Option String) (input : Task α)
    (s : Program.Surroundings) : IO Program.Outcome := do
  let outcome ← work arguments s
  if outcome.exitCode != 0 then return outcome
  let rec wait (s : Program.Surroundings) : IO Program.Outcome := do
    if ← IO.hasFinished input then work arguments { s with time := ← now }
    else
      IO.sleep 250
      match watched with
      | none => wait s
      | some path =>
        let before := s.changes.foldl (fun files change => change.apply files) s.files
        let change := FileChange.between path ((before.look path).toOption.getD (.directory []))
          (← snapshot path)
        if change.isNothing then wait s
        else workOn arguments watched input { s with changes := s.changes ++ [change] }
  wait s

/-- Carries out a command line. -/
def carryOut (arguments : List String) (line : CommandLine) : IO Program.Outcome := do
  let s ← lookAround line
  match line.command with
  | .run manifests watch => do
    let input ← IO.getStdin
    let rest ← IO.asTask (do let _ ← input.lines)
    workOn arguments (if watch then manifests else none) rest s
  | _ => work arguments s

end ControlPlane.Main

/-- Reads the arguments, does what they say, and ends with the status of that. -/
def main (arguments : List String) : IO UInt32 := do
  match ControlPlane.CommandLine.read arguments with
  | .error e => pure e.exitCode.toUInt32
  | .ok line =>
    let outcome ← ControlPlane.Main.carryOut arguments line
    (← IO.getStdout).putStr outcome.output
    outcome.remarks.forM fun remark => do (← IO.getStderr).putStrLn remark
    pure outcome.exitCode.toUInt32
