import ControlPlane.Form.Error

/-!
Forms: how a type is read from a free-form value and written as one. The forms of lists, options
and dictionaries are built from the forms of their parts, and the form of a record from its fields.
-/

namespace ControlPlane

/-- The order in which the fields of a record are written. -/
inductive FieldOrder where
  | declared
  | byKey
  deriving DecidableEq

/-- How a type is read from and written as a free-form value. -/
structure Form (α : Type) where
  read : Json → Except FormError α
  write : FieldOrder → α → Json

namespace Form

/-! ### Single values -/

/-- Any value at all. -/
def free : Form Json := ⟨.ok, fun _ v => v⟩

/-- Text. -/
def text : Form String where
  read
    | .str s => .ok s
    | v => .error (.wrongType (.of v) "a string")
  write _ s := .str s

/-- Text that names a place in the file system. -/
def path : Form String where
  read
    | .str s => .ok s
    | v => .error (.wrongType (.of v) "path string")
  write _ s := .str s

/-- A truth value. -/
def flag : Form Bool where
  read
    | .bool b => .ok b
    | v => .error (.wrongType (.of v) "a boolean")
  write _ b := .bool b

/-- A whole number between bounds; the word names the bounds. -/
def whole (low high : Int) (word : String) (ofInt : Int → α) (toInt : α → Int) : Form α where
  read
    | .int i =>
      if low ≤ i ∧ i ≤ high then .ok (ofInt i) else .error (.wrongValue (.int i) word)
    | v => .error (.wrongType (.of v) word)
  write _ a := .int (toInt a)

/-- A natural number of 64 bits. -/
def count : Form UInt64 :=
  whole 0 (UInt64.size - 1) "u64" (fun i => UInt64.ofNat i.toNat) fun n => n.toNat

/-- A natural number of 64 bits that counts things in memory. -/
def size : Form UInt64 :=
  whole 0 (UInt64.size - 1) "usize" (fun i => UInt64.ofNat i.toNat) fun n => n.toNat

/-- An integer of 32 bits. -/
def int32 : Form Int32 :=
  whole Int32.minValue.toInt Int32.maxValue.toInt "i32" Int32.ofInt Int32.toInt

/-- An integer of 64 bits. -/
def int64 : Form Int64 :=
  whole Int64.minValue.toInt Int64.maxValue.toInt "i64" Int64.ofInt Int64.toInt

/-- The value of a type with one value. -/
def unit : Form Unit where
  read
    | .null => .ok ()
    | v => .error (.wrongType (.of v) "unit")
  write _ _ := .null

/-- A choice among names: the name itself, or an object whose only key is the name. -/
def choice (known : List (String × α)) (nameOf : α → String) : Form α :=
  let pick (name : String) : Except FormError α :=
    match known.find? fun k => k.1 == name with
    | some k => .ok k.2
    | none => .error (.unknownVariant name (known.map Prod.fst))
  { read
      | .str s => pick s
      | .obj [(k, v)] => do
        let a ← pick k
        let _ ← unit.read v
        pure a
      | .obj _ => .error (.wrongValue .map "map with a single key")
      | v => .error (.wrongType (.of v) "string or map")
    write _ a := .str (nameOf a) }

/-! ### Collections -/

/-- A value or null. -/
def option (f : Form α) : Form (Option α) where
  read
    | .null => .ok none
    | v => (f.read v).map some
  write order
    | some a => f.write order a
    | none => .null

/-- A list. -/
def list (f : Form α) : Form (List α) where
  read
    | .arr items => items.mapM f.read
    | v => .error (.wrongType (.of v) "a sequence")
  write order items := .arr (items.map (f.write order))

/-- A dictionary. -/
def dictionary (f : Form α) : Form (Dictionary String α) where
  read
    | .obj fields => do
      let entries ← fields.mapM fun e => do
        let a ← f.read e.2
        pure (e.1, a)
      pure (.ofList entries)
    | v => .error (.wrongType (.of v) "a map")
  write order d := .ofDictionary (f.write order) d

end Form

/-! ### Records -/

/-- What becomes of a record whose field is absent. -/
inductive Absence where
  /-- The field is missed. -/
  | refused
  /-- An object may lack the field, a list may not. -/
  | lenient
  /-- The field keeps the value it starts with. -/
  | preset
  deriving DecidableEq

/-- A field of a record type. -/
structure Field (α : Type) where
  name : String
  absence : Absence
  read : Json → α → Except FormError α
  write : FieldOrder → α → Option Json

/-- A field with a form, a getter and a setter; a value that is dropped is not written. -/
def Field.of (name : String) (absence : Absence) (form : Form β) (get : α → β) (set : α → β → α)
    (dropped : β → Bool := fun _ => false) : Field α where
  name
  absence
  read v a := (form.read v).map (set a)
  write order a := if dropped (get a) then none else some (form.write order (get a))

/-- A record type: the value its fields are put into, and the fields in the order of their
declaration. -/
structure Schema (α : Type) where
  name : String
  start : α
  fields : List (Field α)

namespace Schema

/-- The words for the expected record. -/
def expected (s : Schema α) : String := "struct " ++ s.name

/-- The words for a list of as many elements as there are fields. -/
def expectedLength (s : Schema α) : String :=
  s.expected ++ " with " ++ toString s.fields.length ++
    (if s.fields.length = 1 then " element" else " elements")

/-- Puts the entries of an object into a record, in their order; unknown keys are passed over. -/
def readEntries (s : Schema α) : List (String × Json) → α → Except FormError α
  | [], a => .ok a
  | (k, v) :: rest, a =>
    match s.fields.find? fun f => f.name == k with
    | some f => do
      let a ← f.read v a
      s.readEntries rest a
    | none => s.readEntries rest a

/-- The first field, in the order of declaration, that must not be absent and is. -/
def missing? (s : Schema α) (entries : List (String × Json)) : Option String :=
  (s.fields.find? fun f => f.absence == .refused && !entries.any fun e => e.1 == f.name).map
    Field.name

/-- Puts the elements of a list into the fields, one after another. -/
def readElements (s : Schema α) : List (Field α) → List Json → Nat → α → Except FormError α
  | [], [], _, a => .ok a
  | [], _ :: rest, index, _ =>
    .error (.wrongLength (index + rest.length + 1) "fewer elements in array")
  | f :: fields, v :: rest, index, a => do
    let a ← f.read v a
    s.readElements fields rest (index + 1) a
  | f :: fields, [], index, a =>
    if f.absence = .preset then s.readElements fields [] index a
    else .error (.wrongLength index s.expectedLength)

/-- Reads a record from an object or from a list of its fields. -/
def read (s : Schema α) : Json → Except FormError α
  | .obj entries => do
    let a ← s.readEntries entries s.start
    match s.missing? entries with
    | some name => .error (.missingField name)
    | none => pure a
  | .arr items => s.readElements s.fields items 0 s.start
  | v => .error (.wrongType (.of v) s.expected)

/-- The fields that are written, in the order of declaration. -/
def writeFields (s : Schema α) (order : FieldOrder) (a : α) : List (String × Json) :=
  s.fields.filterMap fun f => (f.write order a).map fun v => (f.name, v)

/-- The form of a record. -/
def form (s : Schema α) : Form α where
  read := s.read
  write order a :=
    match order with
    | .declared => .obj (s.writeFields .declared a)
    | .byKey => .obj (Entries.ofList (s.writeFields .byKey a))

end Schema

end ControlPlane
