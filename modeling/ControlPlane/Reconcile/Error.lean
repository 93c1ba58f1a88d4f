import ControlPlane.Record.Ownership
import ControlPlane.Store.Error

/-!
Why an invocation fails.
-/

namespace ControlPlane

/-! ### Tools -/

/-- Why a tool reference cannot be resolved. -/
inductive ResolveError where
  | function (tool : String) (cause : StoreError)
  | package (name : String) (cause : StoreError)
  | moduleNotFound (module package : String)
  | missingRequestSource (function : String)
  deriving DecidableEq, Inhabited

/-- The words for an unresolved tool reference. -/
def ResolveError.message : ResolveError → String
  | function tool cause => "failed to get function " ++ tool ++ ": " ++ cause.message
  | package name cause => "failed to get package " ++ name ++ ": " ++ cause.message
  | moduleNotFound name holder => "module " ++ name ++ " not found in package " ++ holder
  | missingRequestSource name => "function " ++ name ++ " does not have a request source"

/-! ### Invocations -/

/-- Why an invocation fails. -/
inductive ReconcileError where
  /-- The response source is declared without a topic. -/
  | validation
  | toolResolution (tool : String) (cause : ResolveError)
  /-- A configuration document cannot be composed. -/
  | compose (agent document : String) (cause : ReconcileError)
  | ownership (cause : OwnershipError)
  | store (cause : StoreError)
  deriving DecidableEq, Inhabited

namespace ReconcileError

/-- The words for a failed invocation. -/
def message : ReconcileError → String
  | validation =>
    "invalid ResponseSource configuration: ResponseSource is set but Pulsar is nil or Topic is empty"
  | toolResolution tool cause =>
    "failed to build tool context for " ++ tool ++ ": " ++ cause.message
  | compose agent document cause =>
    "failed to build " ++ document ++ " config for agent " ++ agent ++ ": " ++ cause.message
  | ownership cause => "owner reference error: " ++ cause.message
  | store cause => cause.message

/-- Whether another writer came first. -/
def isConflict : ReconcileError → Bool
  | store cause => cause.isConflict
  | _ => false

/-- Whether only another specification can help. -/
def isValidation : ReconcileError → Bool
  | validation => true
  | _ => false

/-- The short reason under which a failure is remembered. -/
def reason : ReconcileError → String
  | validation => "InvalidSpec"
  | toolResolution .. => "ToolResolutionFailed"
  | compose _ _ cause => cause.reason
  | ownership _ => "OwnershipConflict"
  | store cause => if cause.isConflict then "Conflict" else "StoreFailed"

end ReconcileError

end ControlPlane
