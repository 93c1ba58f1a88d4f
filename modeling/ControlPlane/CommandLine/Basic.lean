import ControlPlane.CommandLine.Level
import ControlPlane.Settings.Basic

/-!
The command line: options for the whole program, then a command with its own options.
-/

namespace ControlPlane

/-- What the program is told to do. -/
inductive Command where
  /-- Keep working until stopped, on what manifests declare and as they change. -/
  | run (manifests : Option String) (watch : Bool)
  /-- Apply manifests, work on every agent once, and report. -/
  | reconcile (manifests format : String)
  /-- Report on the agents of a namespace or of all. -/
  | status (format : String) («namespace» : Option String)
  /-- Tell the identifier of a name. -/
  | normalize (name : String)
  deriving DecidableEq, Inhabited

/-- What is told about the log on the command line. -/
structure LogOverrides where
  level : Option String := none
  format : Option String := none
  output : Option String := none
  file : Option String := none
  deriving DecidableEq, Inhabited

/-- The settings of the log with what is told on the command line put over them. -/
def LogOverrides.applyTo (o : LogOverrides) (s : LogSettings) : LogSettings :=
  { s with
    level := o.level.getD s.level
    format := o.format.getD s.format
    output := o.output.getD s.output
    file := o.file.or s.file }

/-- A command and the options for the whole program. -/
structure CommandLine where
  command : Command
  /-- The file of settings that is asked for. -/
  settings : Option String := none
  log : LogOverrides := {}
  deriving DecidableEq, Inhabited

namespace CommandLine

/-! ### Commands -/

/-- The names of commands. -/
inductive CommandName where
  | run
  | reconcile
  | status
  | normalize
  deriving DecidableEq, Inhabited

namespace CommandName

/-- The word for a command. -/
def text : CommandName → String
  | run => "run"
  | reconcile => "reconcile"
  | status => "status"
  | normalize => "normalize"

def all : List CommandName := [run, reconcile, status, normalize]

/-- The command of a word. -/
def ofText? (word : String) : Option CommandName := all.find? (·.text == word)

/-- What the level of a command takes. -/
def level : CommandName → Level
  | run => { options := [⟨"manifests", .path⟩, ⟨"watch", .nothing⟩] }
  | reconcile => { options := [⟨"manifests", .path⟩, ⟨"format", .text⟩] }
  | status => { options := [⟨"format", .text⟩, ⟨"namespace", .text⟩] }
  | normalize => { operand := some ⟨"name", .text⟩ }

/-- A value that must be given. -/
def demand (r : Reading) (name : String) : Except UsageError String :=
  match r.value? name with
  | some value => .ok value
  | none => .error .missingArgument

/-- The command that is told on its level; there is nothing to watch without manifests. -/
def command (r : Reading) : CommandName → Except UsageError Command
  | run =>
    match r.value? "manifests", r.has "watch" with
    | none, true => .error .missingArgument
    | manifests, watch => .ok (.run manifests watch)
  | reconcile => do
    pure (.reconcile (← demand r "manifests") ((r.value? "format").getD "yaml"))
  | status => .ok (.status ((r.value? "format").getD "text") (r.value? "namespace"))
  | normalize => do pure (.normalize (← demand r "name"))

/-- Reads the arguments of a command. -/
def read (name : CommandName) (arguments : List String) : Except UsageError Command := do
  let (r, _) ← name.level.read arguments
  command (← r.settle) name

end CommandName

/-! ### The whole line -/

/-- The command that asks for help. -/
def helpName : String := "help"

/-- What the level of the program takes. -/
def level : Level where
  options := [⟨"config", .path⟩, ⟨"log-level", .text⟩, ⟨"log-format", .text⟩,
    ⟨"log-output", .text⟩, ⟨"log-file", .path⟩]
  commands := CommandName.all.map CommandName.text ++ [helpName]

/-- What the command for help comes to: the names behind it must lead to a command. -/
def helpOn : List String → UsageError
  | [] => .help
  | [name] => if level.commands.contains name then .help else .unknownCommand
  | _ => .unknownCommand

/-- The options for the whole program, with a command. -/
def ofReading (r : Reading) (command : Command) : CommandLine where
  command
  settings := r.value? "config"
  log := {
    level := r.value? "log-level"
    format := r.value? "log-format"
    output := r.value? "log-output"
    file := r.value? "log-file" }

/-- Reads arguments. The arguments of a command come before an option that stands by in front of
it. -/
def read (arguments : List String) : Except UsageError CommandLine := do
  let (r, rest) ← level.read arguments
  match rest with
  | none =>
    let r ← r.settle
    throw (if r.given.isEmpty then .noArguments else .missingCommand)
  | some (word, arguments) =>
    match CommandName.ofText? word with
    | none => throw (helpOn arguments)
    | some name =>
      let command ← name.read arguments
      pure (ofReading (← r.settle) command)

end CommandLine

end ControlPlane
