import ControlPlane.Store.Basic

/-!
Stores as values, to be kept while the program does not run: a list of records for every kind.
-/

namespace ControlPlane.Store

variable {κ : Type} [Address κ]

/-- The records of a store as one value. -/
def toJson (s : Store κ) : Json :=
  .obj (Kind.all.map fun kind =>
    (kind.text, .arr ((s.select kind none).map (Record.form.write .byKey))))

/-- The store with the record in a value; a record whose key is refused is none. -/
def putRead? (s : Store κ) (kind : Kind) (v : Json) : Option (Store κ) := do
  let r ← (Record.form.read v).toOption
  if accepted : Address.refusal? κ r.key = none then some (s.put kind r accepted) else none

/-- The store with the records of a kind. -/
def putAll (s : Store κ) (kind : Kind) (records : List Json) : Option (Store κ) :=
  records.foldlM (fun s v => s.putRead? kind v) s

/-- The store of the records in a value. -/
def ofJson? (uids : UidSupply) (v : Json) : Option (Store κ) :=
  Kind.all.foldlM (fun s kind =>
    match v.field? kind.text with
    | some (.arr records) => s.putAll kind records
    | _ => none) (empty uids)

end ControlPlane.Store
