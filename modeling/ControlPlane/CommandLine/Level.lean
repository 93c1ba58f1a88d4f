import ControlPlane.CommandLine.Error

/-!
Levels of a command line: the arguments before the name of a command make up one level and those
after it another. Every level has options of its own, and ends at the name of a command or with the
last argument. An option stands by while its value may still come, and counts once the next option
or operand begins or the level has ended.
-/

namespace ControlPlane.CommandLine

/-! ### What a level takes -/

/-- What an option or operand takes. -/
inductive Takes where
  | nothing
  | text
  /-- A path, which is not empty. -/
  | path
  deriving DecidableEq, Inhabited

/-- An option or operand. -/
structure Parameter where
  name : String
  takes : Takes
  deriving DecidableEq, Inhabited

/-- What a level takes: options, at most one operand, and the names of commands, which end it. -/
structure Level where
  options : List Parameter := []
  operand : Option Parameter := none
  commands : List String := []

namespace Level

/-- The option of a name. -/
def option? (l : Level) (name : String) : Option Parameter := l.options.find? (·.name == name)

end Level

/-! ### Arguments -/

/-- What an argument looks like. -/
inductive Shape where
  /-- The name of an option, and a value that is attached to it. -/
  | long (name : String) (attached : Option String)
  /-- Options of one letter each. -/
  | short (letters : List Char)
  /-- The mark before arguments that are no options. -/
  | mark
  | plain
  deriving DecidableEq, Inhabited

/-- The shape of an argument; a single dash is a plain one. -/
def Shape.of (argument : String) : Shape :=
  match argument.toList with
  | ['-', '-'] => mark
  | '-' :: '-' :: rest =>
    let name := rest.takeWhile (· != '=')
    match rest.drop name.length with
    | [] => long (String.ofList name) none
    | _ :: value => long (String.ofList name) (some (String.ofList value))
  | '-' :: c :: rest => short (c :: rest)
  | _ => plain

/-! ### Reading a level -/

/-- What was read of a level. -/
structure Reading where
  /-- The options and operands that count, with their values. -/
  given : List (String × String) := []
  /-- The option or operand that stands by, with its value if that has come. -/
  standing : Option (Parameter × Option String) := none
  deriving DecidableEq, Inhabited

namespace Reading

/-- The value of an option or operand that counts. -/
def value? (r : Reading) (name : String) : Option String := r.given.lookup name

/-- Whether an option counts. -/
def has (r : Reading) (name : String) : Bool := (r.value? name).isSome

/-- Whether an operand was met. -/
def met (r : Reading) (p : Parameter) : Bool :=
  r.has p.name || r.standing.any fun s => s.1.name == p.name

/-- Whether a value is waited for. -/
def awaits (r : Reading) : Bool := r.standing.any (·.2.isNone)

/-- Lets a value count. -/
def count (r : Reading) (p : Parameter) (value : String) : Except UsageError Reading :=
  if r.has p.name then .error .repeatedArgument
  else if p.takes = .path && value.isEmpty then .error .invalidValue
  else .ok { r with given := r.given ++ [(p.name, value)] }

/-- Lets what stands by count. -/
def settle (r : Reading) : Except UsageError Reading :=
  match r.standing with
  | none => .ok r
  | some (_, none) => .error .invalidValue
  | some (p, some value) => { r with standing := none }.count p value

/-- Reads an option that is spelled out. -/
def takeOption (r : Reading) (p : Parameter) (attached : Option String) :
    Except UsageError Reading :=
  match p.takes, attached with
  | .nothing, some _ => .error .unwantedValue
  | .nothing, none => do (← r.settle).count p ""
  | _, some value => do (← r.settle).count p value
  | _, none => do pure { ← r.settle with standing := some (p, none) }

end Reading

namespace Level

/-- Reads an argument that is no option; whether it stands behind the mark only matters where it
cannot be taken. -/
def takeOperand (l : Level) (r : Reading) (argument : String) (marked : Bool) :
    Except UsageError Reading :=
  match l.operand.filter (!r.met ·) with
  | some p => do pure { ← r.settle with standing := some (p, some argument) }
  | none =>
    if l.commands.isEmpty || (marked && l.commands.contains argument) then
      .error .unknownArgument
    else .error .unknownCommand

/-- Reads an option; every level has one for help. -/
def takeLong (l : Level) (r : Reading) (name : String) (attached : Option String) :
    Except UsageError Reading :=
  match l.option? name with
  | some p => r.takeOption p attached
  | none =>
    if name ≠ "help" then .error .unknownArgument
    else (r.takeOption ⟨name, .nothing⟩ attached).bind fun _ => .error .help

/-- Reads options of one letter; there is only the one for help. -/
def takeShort (r : Reading) (letters : List Char) : Except UsageError Reading :=
  if letters.head? = some 'h' then r.settle.bind fun _ => .error .help
  else .error .unknownArgument

/-- Reads the arguments behind the mark. -/
def readMarked (l : Level) (r : Reading) (arguments : List String) : Except UsageError Reading :=
  arguments.foldlM (fun r argument => l.takeOperand r argument true) r

/-- Reads arguments up to the name of a command, which is handed out with those after it. -/
def readFrom (l : Level) (r : Reading) :
    List String → Except UsageError (Reading × Option (String × List String))
  | [] => .ok (r, none)
  | argument :: rest =>
    if !r.awaits && l.commands.contains argument then .ok (r, some (argument, rest))
    else
      match Shape.of argument with
      | .mark => (l.readMarked r rest).map (·, none)
      | .long name attached => do readFrom l (← l.takeLong r name attached) rest
      | .short letters => do readFrom l (← takeShort r letters) rest
      | .plain =>
        match r.standing with
        | some (p, none) => readFrom l { r with standing := some (p, some argument) } rest
        | _ => do readFrom l (← l.takeOperand r argument false) rest

/-- Reads the arguments of a level. -/
def read (l : Level) (arguments : List String) :
    Except UsageError (Reading × Option (String × List String)) := l.readFrom {} arguments

end Level

end ControlPlane.CommandLine
