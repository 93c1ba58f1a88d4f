import ControlPlane.CommandLine.Basic
import ControlPlane.Log.Start
import ControlPlane.Program.OpenStore
import ControlPlane.Program.Service
import ControlPlane.Settings.Loading

/-!
The program: reads its arguments and settings, starts the log, opens the store, carries out a
command, and tells how that went. A log that cannot be started is no reason to stop.
-/

namespace ControlPlane.Program

/-! ### What it works in and comes to -/

/-- What the program finds around it. -/
structure Surroundings where
  files : FileSystem
  environment : Variables
  uids : UidSupply
  time : Timestamp
  /-- How the files change while a command works that does not end by itself. -/
  changes : List FileChange := []

/-- How the program ended. -/
structure Outcome where
  exitCode : Nat
  output : String := ""
  /-- What is told beside the output. -/
  remarks : List String := []
  files : FileSystem
  /-- The store as it was left, if one was opened. -/
  store : Option OpenStore := none

/-! ### Commands -/

/-- Carries out a command. -/
def perform (s : Surroundings) (settings : Settings) (store : OpenStore) :
    Command → (Except ProgramError String × FileSystem) × OpenStore
  | .run manifests watch =>
    store.act fun _ _ store =>
      Command.performRun settings s.time manifests watch s.changes s.files store
  | .reconcile manifests format =>
    once (Command.performReconcile settings.broker s.files s.time manifests format)
  | .status format ns => once (Command.performStatus format ns)
  | .normalize name => once (Command.performNormalize name)
where
  once (a : Attempt ProgramError String) : (Except ProgramError String × FileSystem) × OpenStore :=
    let (result, store) := store.run a.run
    ((result, s.files), store)

/-! ### From start to end -/

/-- An end with a failure. -/
def failed (files : FileSystem) (remarks : List String) (words : String) : Outcome :=
  { exitCode := 1
    remarks := remarks ++ ["Error: " ++ words]
    files }

/-- Carries out a command with settings and a log, after some remarks. -/
def conclude (s : Surroundings) (settings : Settings) (remarks : List String) (c : Command) :
    Outcome :=
  match OpenStore.ofSettings settings.store s.environment s.uids s.files with
  | .error e => failed s.files remarks ("Error initializing operator: " ++ e.account)
  | .ok (store, files) =>
    let ((result, files), store) := perform { s with files } settings store c
    let files := store.save files
    match result with
    | .ok text => { exitCode := 0, output := text ++ "\n", remarks, files, store := some store }
    | .error e => { failed files remarks e.account with store := some store }

/-- Runs the program. -/
def run (arguments : List String) (s : Surroundings) : Outcome :=
  match CommandLine.read arguments with
  | .error e => { exitCode := e.exitCode, files := s.files }
  | .ok line =>
    match Settings.load s.files s.environment line.settings with
    | .error e =>
      failed s.files [] ("Error loading configuration: " ++ (ProgramError.settings e).account)
    | .ok settings =>
      match (line.log.applyTo settings.log).start s.environment s.files with
      | .ok files => conclude { s with files } settings [] line.command
      | .error e =>
        conclude s settings ["Warning: logging disabled: " ++ e.message] line.command

end ControlPlane.Program
