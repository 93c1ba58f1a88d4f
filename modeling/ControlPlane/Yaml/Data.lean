import ControlPlane.Json.Printer
import ControlPlane.Yaml.Value

/-!
The free-form value that a value stands for. The keys of a mapping become text, and a local tag
becomes the only key of an object.
-/

namespace ControlPlane.Yaml

/-- Why a value stands for no free-form value. -/
inductive KeyFault where
  /-- A key is null or a collection. -/
  | notText
  /-- A key is an infinite number or no number. -/
  | notFinite
  deriving DecidableEq, Inhabited

/-- The words for a key that cannot become text. -/
def KeyFault.message : KeyFault → String
  | notText => "key must be a string"
  | notFinite => "float key must be finite (got NaN or +/-inf)"

namespace Value

/-- The text that a key becomes. -/
def keyText : Value → Except KeyFault String
  | .str s => .ok s
  | .bool b => .ok (if b then "true" else "false")
  | .int i => .ok (toString i)
  | .float x => if x.isFinite then .ok (Json.floatText x) else .error .notFinite
  | _ => .error .notText

mutual

/-- The free-form value that a value stands for; a number that is not finite becomes null. -/
def toJson : Value → Except KeyFault Json
  | .null => .ok .null
  | .bool b => .ok (.bool b)
  | .int i => .ok (.int i)
  | .float x => .ok (if x.isFinite then .float x else .null)
  | .str s => .ok (.str s)
  | .sequence items => (itemsToJson items).map .arr
  | .mapping entries => (entriesToJson entries).map fun fields => .obj (Entries.ofList fields)
  | .tagged tag v => v.toJson.map fun j => .obj [("!" ++ tag, j)]
termination_by structural x => x

/-- The free-form values that the values of a list stand for. -/
def itemsToJson : List Value → Except KeyFault (List Json)
  | [] => .ok []
  | v :: rest => do
    let j ← v.toJson
    pure (j :: (← itemsToJson rest))
termination_by structural x => x

/-- The fields that the entries of a mapping become, where they stand. -/
def entriesToJson : List (Value × Value) → Except KeyFault (List (String × Json))
  | [] => .ok []
  | (k, v) :: rest => do
    let key ← k.keyText
    let j ← v.toJson
    pure ((key, j) :: (← entriesToJson rest))
termination_by structural x => x

end

end Value

end ControlPlane.Yaml
