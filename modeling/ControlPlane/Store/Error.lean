import ControlPlane.Record.Key

/-!
Why a call on the store fails.
-/

namespace ControlPlane

/-- Why a call on the store fails. -/
inductive StoreError where
  | notFound (kind : Kind) (key : RecordKey)
  | alreadyExists (kind : Kind) (key : RecordKey)
  /-- A write carries another version than the stored one. -/
  | conflict (kind : Kind) (key : RecordKey) (expected actual : UInt64)
  /-- A record is not of the form of its kind. -/
  | serialization (cause : FormError)
  | backend (cause : String)
  | timeout
  deriving DecidableEq, Inhabited

namespace StoreError

/-- The words for a store error. -/
def message : StoreError → String
  | notFound kind key => kind.text ++ " " ++ key.text ++ " not found"
  | alreadyExists kind key => kind.text ++ " " ++ key.text ++ " already exists"
  | conflict kind key expected actual =>
    "conflict on " ++ kind.text ++ " " ++ key.text ++ ": expected resource version " ++
      toString expected.toNat ++ ", found " ++ toString actual.toNat
  | serialization cause => "serialization error: " ++ cause.message
  | backend cause => "store backend error: " ++ cause
  | timeout => "store call exceeded its deadline"

/-- Whether the record asked for is absent. -/
def isNotFound : StoreError → Bool
  | notFound .. => true
  | _ => false

/-- Whether another writer came first. -/
def isConflict : StoreError → Bool
  | conflict .. | alreadyExists .. => true
  | _ => false

end StoreError

end ControlPlane
