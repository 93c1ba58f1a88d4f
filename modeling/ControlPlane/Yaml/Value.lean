import ControlPlane.Yaml.Node

/-!
Values: what the nodes of a document mean. Plain scalars mean null, truth values and numbers by the
core schema; an alias means a copy of its node; a local tag stays with its value.
-/

namespace ControlPlane.Yaml

/-! ### Plain scalars -/

namespace Plain

/-- The truth value that a text means. -/
def bool? : String → Option Bool
  | "true" | "True" | "TRUE" => some true
  | "false" | "False" | "FALSE" => some false
  | _ => none

/-- Whether a text means null. -/
def isNull (s : String) : Bool := s == "null" || s == "Null" || s == "NULL" || s == "~"

/-- Whether digits after a leading zero make a text no number. -/
def isZeroPadded (cs : List Char) : Bool :=
  let digits := match cs with
    | '-' :: rest | '+' :: rest => rest
    | cs => cs
  match digits with
  | '0' :: d :: rest => (d :: rest).all Char.isDigit
  | _ => false

/-- The natural number that digits to a base mean. -/
def digits? (base : Nat) (cs : List Char) : Option Nat :=
  if cs.isEmpty then none
  else cs.foldlM (fun n c => do
    let d ← Decimal.hexValue? c
    if d < base then some (base * n + d) else none) 0

/-- The natural number that digits mean, the base given by what comes first. -/
def magnitude? : List Char → Option Nat
  | '0' :: 'x' :: ds => digits? 16 ds
  | '0' :: 'o' :: ds => digits? 8 ds
  | '0' :: 'b' :: ds => digits? 2 ds
  | ds => digits? 10 ds

/-- The whole number that a text means. -/
def int? (cs : List Char) : Option Int :=
  if isZeroPadded cs then none
  else
    match cs with
    | '-' :: rest => (magnitude? rest).map fun n => -(n : Int)
    | '+' :: rest => (magnitude? rest).map fun n => (n : Int)
    | rest => (magnitude? rest).map fun n => (n : Int)

/-- The double-precision number that a text means. -/
def float? (s : String) : Option Binary64 :=
  match s with
  | ".inf" | ".Inf" | ".INF" | "+.inf" | "+.Inf" | "+.INF" => some (.infinity false)
  | "-.inf" | "-.Inf" | "-.INF" => some (.infinity true)
  | ".nan" | ".NaN" | ".NAN" => some .nan
  | s => (Decimal.ofNumeral? s.toList).filter Binary64.isFinite

end Plain

/-! ### Values -/

/-- What a node means. -/
inductive Value where
  | null
  | bool (b : Bool)
  | int (i : Int)
  | float (x : Binary64)
  | str (s : String)
  | sequence (items : List Value)
  | mapping (entries : List (Value × Value))
  /-- A value with a local tag, without its exclamation mark. -/
  | tagged (tag : String) (value : Value)
  deriving Inhabited

namespace Value

mutual

/-- Whether two values are the same key; the order of a mapping does not matter. -/
def same : Value → Value → Bool
  | .null, .null => true
  | .bool a, .bool b => a == b
  | .int a, .int b => a == b
  | .float a, .float b => a.alike b || (a.isNaN && b.isNaN)
  | .str a, .str b => a == b
  | .sequence a, .sequence b => sameItems a b
  | .mapping a, .mapping b => a.length == b.length && sameEntries a b
  | .tagged s a, .tagged t b => s == t && a.same b
  | _, _ => false
termination_by structural x => x

/-- Whether two lists have the same values. -/
def sameItems : List Value → List Value → Bool
  | [], [] => true
  | x :: xs, y :: ys => x.same y && sameItems xs ys
  | _, _ => false
termination_by structural x => x

/-- Whether the entries of a list are all among others. -/
def sameEntries : List (Value × Value) → List (Value × Value) → Bool
  | [], _ => true
  | (k, v) :: rest, others =>
    (others.any fun e => k.same e.1 && v.same e.2) && sameEntries rest others
termination_by structural x => x

end

/-- A whole number, which must fit in 64 bits, signed or not. -/
def ofInt (i : Int) : Except Fault Value :=
  if Int64.minValue.toInt ≤ i ∧ i < UInt64.size then .ok (.int i) else .error .numberOutOfRange

/-- The bound on the size of whole numbers: a larger one is a double-precision number. -/
def isWide (i : Int) : Bool := i < -(Nat.pow 2 127 : Nat) || (Nat.pow 2 128 : Nat) ≤ i

/-- What a plain scalar means. -/
def ofPlain (s : String) : Except Fault Value :=
  if s.isEmpty || Plain.isNull s then .ok .null
  else
    match Plain.bool? s, (Plain.int? s.toList).filter fun i => !isWide i with
    | some b, _ => .ok (.bool b)
    | none, some i => ofInt i
    | none, none =>
      match if Plain.isZeroPadded s.toList then none else Plain.float? s with
      | some x => .ok (.float x)
      | none => .ok (.str s)

/-- The handle of the tags of the core schema. -/
def coreStem : String := "tag:yaml.org,2002:"

/-- What a scalar with a tag of the core schema means, if the tag names another type than text. -/
def ofCore (tag s : String) : Except Fault Value :=
  let known (v : Option Value) : Except Fault Value :=
    match v with
    | some v => .ok v
    | none => .error .badTaggedScalar
  if tag = coreStem ++ "bool" then known ((Plain.bool? s).map .bool)
  else if tag = coreStem ++ "int" then
    match (Plain.int? s.toList).filter fun i => !isWide i with
    | some i => ofInt i
    | none => .error .badTaggedScalar
  else if tag = coreStem ++ "float" then known ((Plain.float? s).map .float)
  else if tag = coreStem ++ "null" then known (if Plain.isNull s then some .null else none)
  else .ok (.str s)

/-- A local tag without its exclamation mark. -/
def localTag? (tag : String) : Option String :=
  match tag.toList with
  | '!' :: rest => some (String.ofList rest)
  | _ => none

/-- A local tag that stays with a value; its name is not empty. -/
def withTag (tag : Option String) (value : Except Fault Value) : Except Fault Value :=
  match tag.bind localTag? with
  | some "" => .error .badTag
  | some name => value.map (.tagged name)
  | none => value

/-- What a scalar means. -/
def ofScalar (tag : Option String) (s : Scalar) : Except Fault Value :=
  let untagged := if s.style = .plain then ofPlain s.text else .ok (.str s.text)
  match tag with
  | none => untagged
  | some t => if (localTag? t).isSome then withTag tag untagged else ofCore t s.text

/-- Whether a value is null, whatever its tag. -/
def isNull : Value → Bool
  | .null => true
  | .tagged _ v => v.isNull
  | _ => false

/-! ### Documents -/

/-- Counts the aliases that were followed. -/
abbrev Follow := StateT Nat (Except Fault)

/-- The number of aliases that may be followed for each part of a document. -/
def aliasesPerPart : Nat := 100

/-- The node that a number of an anchor means. -/
def nodeOf? (anchored : List Anchored) (number : Nat) : Option Node :=
  ((anchored.filter fun a => a.number == number).foldl (fun (best : Option Anchored) a =>
    match best with
    | some b => if b.place < a.place then some a else some b
    | none => some a) none).map (·.node)

/-- The node itself, or the one that an alias means. -/
def follow (d : Document) : Node → Follow Node
  | .alias number => do
    modify (· + 1)
    if aliasesPerPart * d.size < (← get) then throw .tooManyAliases
    match nodeOf? d.anchored number with
    | some node => pure node
    | none => throw .tooDeep
  | node => pure node

/-- What a node means, collections nested no deeper than a number of levels. -/
def ofNode (d : Document) : Nat → Node → Follow Value
  | depth, node => do
    match ← follow d node with
    | .scalar tag s => liftExcept (ofScalar tag s)
    | .sequence tag items =>
      match depth with
      | 0 => throw .tooDeep
      | depth + 1 => do
        let items ← items.mapM (ofNode d depth)
        liftExcept (withTag tag (.ok (.sequence items)))
    | .mapping tag entries =>
      match depth with
      | 0 => throw .tooDeep
      | depth + 1 => do
        let entries ← entries.foldlM (fun acc (e : Node × Node) => do
          let key ← ofNode d depth e.1
          if acc.any fun (other : Value × Value) => other.1.same key then throw .duplicateKey
          pure ((key, ← ofNode d depth e.2) :: acc)) []
        liftExcept (withTag tag (.ok (.mapping entries.reverse)))
    | .alias _ => throw .tooDeep
where
  liftExcept (e : Except Fault Value) : Follow Value := StateT.lift e

/-- How deep collections may be nested. -/
def maxDepth : Nat := 128

/-- What a document means. -/
def ofDocument (d : Document) : Except Fault Value := (·.1) <$> (ofNode d maxDepth d.root).run 0

/-- What the documents of a text mean; nothing comes after a fault. -/
def documents (text : String) : List (Except Fault Value) :=
  (Document.ofText text).map fun d => d.bind ofDocument

end Value

end ControlPlane.Yaml
