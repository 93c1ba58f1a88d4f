import ControlPlane.Decimal.Binary64

/-!
TOML values, and tables in the making. A table in the making remembers how each of its tables came
to be, since that decides what may still be put into it.
-/

namespace ControlPlane.Toml

/-- A TOML value; a date or a time is kept as its text. -/
inductive Value where
  | text (s : String)
  | int (i : Int)
  | float (x : Binary64)
  | bool (b : Bool)
  | moment (text : String)
  | array (items : List Value)
  | table (entries : List (String × Value))
  deriving Inhabited

/-! ### Tables in the making -/

/-- How a table came to be. -/
inductive Making where
  /-- A header led through it. -/
  | passed
  /-- A key of several parts led into it. -/
  | dotted
  /-- A header named it. -/
  | headed
  deriving DecidableEq

/-- A part of a table in the making: a value, a table or a list of tables. -/
inductive Part where
  | value (v : Value)
  | table (making : Making) (parts : List (String × Part))
  | tables (items : List (List (String × Part)))

/-- The named parts of a table. -/
abbrev Parts := List (String × Part)

namespace Parts

/-- Changes the part of a name, or makes it. -/
def alter (name : String) (f : Option Part → Option Part) : Parts → Option Parts
  | [] => (f none).map fun p => [(name, p)]
  | (k, p) :: rest =>
    if k = name then (f (some p)).map fun p => (k, p) :: rest
    else (alter name f rest).map ((k, p) :: ·)

/-- Changes the last table of a list. -/
def alterLast (f : Parts → Option Parts) (items : List Parts) : Option Part :=
  (f (items.getLastD [])).map fun last => .tables (items.dropLast ++ [last])

/-- Changes the table that a header's names lead to. -/
def within (f : Parts → Option Parts) : List String → Parts → Option Parts
  | [], parts => f parts
  | name :: rest, parts => parts.alter name fun
    | none => (within f rest []).map (.table .passed)
    | some (.value _) => none
    | some (.table making inner) => (within f rest inner).map (.table making)
    | some (.tables items) => alterLast (within f rest) items

/-- Puts a value where the parts of a key lead: the value's own table must have been made by keys
of several parts, unless the key has only one. -/
def assign (v : Value) (entered : Option Making) : List String → Parts → Option Parts
  | [], _ => none
  | [name], parts =>
    match entered with
    | none | some .dotted => parts.alter name fun
      | none => some (.value v)
      | some _ => none
    | _ => none
  | name :: rest, parts => parts.alter name fun
    | none => (assign v (some .dotted) rest []).map (.table .dotted)
    | some (.value _) | some (.table .headed _) => none
    | some (.table making inner) => (assign v (some making) rest inner).map (.table making)
    | some (.tables items) => alterLast (assign v (some .headed) rest) items

/-- Heads a table that was only passed so far. -/
def head (name : String) (parts : Parts) : Option Parts := parts.alter name fun
  | none => some (.table .headed [])
  | some (.table .passed inner) => some (.table .headed inner)
  | some _ => none

/-- Starts another table of a list. -/
def headNext (name : String) (parts : Parts) : Option Parts := parts.alter name fun
  | none => some (.tables [[]])
  | some (.tables items) => some (.tables (items ++ [[]]))
  | some _ => none

end Parts

mutual

/-- The value that a finished part is. -/
def Part.finish : Part → Value
  | .value v => v
  | .table _ parts => .table (finishParts parts)
  | .tables items => .array (finishItems items)
termination_by structural x => x

/-- The entries that finished parts are. -/
def finishParts : List (String × Part) → List (String × Value)
  | [] => []
  | (name, p) :: rest => (name, p.finish) :: finishParts rest
termination_by structural x => x

/-- The values that the finished tables of a list are. -/
def finishItems : List (List (String × Part)) → List Value
  | [] => []
  | parts :: rest => .table (finishParts parts) :: finishItems rest
termination_by structural x => x

end

end ControlPlane.Toml
