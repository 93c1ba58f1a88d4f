/-!
Why arguments do not say what to do.
-/

namespace ControlPlane

/-- Why arguments do not say what to do. -/
inductive UsageError where
  /-- Help is asked for. -/
  | help
  /-- There are no arguments. -/
  | noArguments
  | missingCommand
  | unknownCommand
  | missingArgument
  | unknownArgument
  /-- An option that may be given once is given again. -/
  | repeatedArgument
  /-- An option is given no value, or one that it does not take. -/
  | invalidValue
  /-- An option that takes no value is given one. -/
  | unwantedValue
  deriving DecidableEq, Inhabited

/-- The status that the program ends with; asking for help is no failure. -/
def UsageError.exitCode : UsageError → Nat
  | help => 0
  | _ => 2

end ControlPlane
