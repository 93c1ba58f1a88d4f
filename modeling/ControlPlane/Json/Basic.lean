import ControlPlane.Decimal.Binary64
import ControlPlane.Dictionary

/-!
Free-form values: null, truth values, whole numbers, double-precision numbers, text, lists and
objects. A whole number and a double-precision number of one value are different values. An object
is a list of fields; in a canonical value the fields of every object stand in key order.
-/

namespace ControlPlane

/-- A free-form value. -/
inductive Json where
  | null
  | bool (b : Bool)
  | int (i : Int)
  | float (x : Binary64)
  | str (s : String)
  | arr (items : List Json)
  | obj (fields : List (String × Json))
  deriving Inhabited

namespace Json

/-! ### Sameness -/

mutual

/-- Whether two values are the same: double-precision numbers are compared by value, objects field
by field in their order. -/
def same : Json → Json → Bool
  | .null, .null => true
  | .bool a, .bool b => a == b
  | .int a, .int b => a == b
  | .float a, .float b => a.alike b
  | .str a, .str b => a == b
  | .arr a, .arr b => sameItems a b
  | .obj a, .obj b => sameFields a b
  | _, _ => false
termination_by structural x => x

/-- Whether two lists of values are the same. -/
def sameItems : List Json → List Json → Bool
  | [], [] => true
  | x :: xs, y :: ys => x.same y && sameItems xs ys
  | _, _ => false
termination_by structural x => x

/-- Whether two lists of fields are the same. -/
def sameFields : List (String × Json) → List (String × Json) → Bool
  | [], [] => true
  | (k, x) :: xs, (l, y) :: ys => k == l && x.same y && sameFields xs ys
  | _, _ => false
termination_by structural x => x

end

instance : BEq Json := ⟨same⟩

/-! ### Canonical form -/

mutual

/-- The value with the fields of every object in key order, the last of one key kept. -/
def canonical : Json → Json
  | .arr items => .arr (canonicalItems items)
  | .obj fields => .obj (Entries.ofList (canonicalFields fields))
  | v => v
termination_by structural x => x

/-- The canonical forms of a list. -/
def canonicalItems : List Json → List Json
  | [] => []
  | v :: rest => v.canonical :: canonicalItems rest
termination_by structural x => x

/-- The canonical forms of the fields' values, the fields where they stand. -/
def canonicalFields : List (String × Json) → List (String × Json)
  | [] => []
  | (k, v) :: rest => (k, v.canonical) :: canonicalFields rest
termination_by structural x => x

end

/-! ### Access and construction -/

/-- The field of an object. -/
def field? : Json → String → Option Json
  | .obj fields, key => (fields.find? fun f => f.1 == key).map Prod.snd
  | _, _ => none

def isNull : Json → Bool
  | .null => true
  | _ => false

/-- A natural number as a value. -/
def nat (n : Nat) : Json := .int n

/-- The value, or null. -/
def ofOption (f : α → Json) : Option α → Json
  | some a => f a
  | none => .null

/-- The object of a dictionary. -/
def ofDictionary (f : α → Json) (d : Dictionary String α) : Json :=
  .obj (d.entries.map fun e => (e.1, f e.2))

end Json

end ControlPlane
