import ControlPlane.Decimal.Numeral
import ControlPlane.Text.Characters

/-!
Settings before they are read: values as files and the environment give them, each with the place
it comes from. A layer is put over another one key by key; keys are alike without regard to case.
-/

namespace ControlPlane

/-- A value given to a setting, and the place where it is given. -/
inductive Setting where
  | nothing (origin : Option String)
  | flag (origin : Option String) (b : Bool)
  | int (origin : Option String) (i : Int)
  | float (origin : Option String) (x : Binary64)
  | text (origin : Option String) (s : String)
  | list (origin : Option String) (items : List Setting)
  | table (origin : Option String) (entries : List (String × Setting))
  deriving Inhabited

namespace Setting

/-- The place where a setting is given; a table that was put together has none. -/
def origin? : Setting → Option String
  | nothing o | flag o _ | int o _ | float o _ | text o _ | list o _ | table o _ => o

/-! ### Tables over tables -/

/-- The entry of a table. -/
def entry? (s : Setting) (key : String) : Option Setting :=
  match s with
  | table _ entries => (entries.find? fun e => e.1 == key).map Prod.snd
  | _ => none

/-- An entry put in its place among others, or behind them. -/
def putEntry (key : String) (v : Setting) : List (String × Setting) → List (String × Setting)
  | [] => [(key, v)]
  | (k, w) :: rest => if k = key then (k, v) :: rest else (k, w) :: putEntry key v rest

/-- The table with an entry; what is no table becomes one. -/
def withEntry (s : Setting) (key : String) (v : Setting) : Setting :=
  match s with
  | table o entries => table o (putEntry key v entries)
  | _ => table none [(key, v)]

mutual

/-- A value put over another: tables are put together, and anything else takes the place. -/
def overlay (below : Option Setting) : Setting → Setting
  | table _ entries => entriesOver (below.getD (table none [])) entries
  | v => v
termination_by structural x => x

/-- The entries of a table put over another value one after another. -/
def entriesOver (below : Setting) : List (String × Setting) → Setting
  | [] => below
  | (key, v) :: rest =>
    let key := Text.lower key
    entriesOver (below.withEntry key (overlay (below.entry? key) v)) rest
termination_by structural x => x

end

/-- The table with a value put over its entry. -/
def overEntry (s : Setting) (key : String) (v : Setting) : Setting :=
  let key := Text.lower key
  s.withEntry key (overlay (s.entry? key) v)

/-! ### Lists -/

/-- The item of a list; negative places count from the end. -/
def placeIn (length : Nat) (place : Int) : Nat :=
  if 0 ≤ place then place.toNat else length - place.natAbs

/-- The items of a list. -/
def items : Setting → List Setting
  | list _ items => items
  | _ => []

/-- The list with an item at a place, as long as it must be; what is no list becomes one. -/
def withItem (s : Setting) (place : Int) (v : Setting) : Setting :=
  let n := placeIn s.items.length place
  let items := s.items ++ List.replicate (n + 1 - s.items.length) (nothing none)
  match s with
  | list o _ => list o (items.set n v)
  | _ => list none (items.set n v)

/-! ### Paths -/

/-- A step on the way to a setting. -/
inductive Step where
  | key (name : String)
  | item (place : Int)
  deriving DecidableEq

/-- Whether a character may stand in the name of a step. -/
def isNameChar (c : Char) : Bool := c.isAlphanum || c == ' ' || c == '_' || c == '-'

/-- The integer that digits with an optional minus mean. -/
def place? (cs : List Char) : Option Int :=
  let (negative, ds) := match cs with
    | '-' :: ds => (true, ds)
    | ds => (false, ds)
  if ds.isEmpty || !ds.all Char.isDigit then none
  else
    let n : Int := Decimal.digitsToNat ds
    some (if negative then -n else n)

/-- The steps after the first that a text writes: names after points, places in brackets. -/
def stepsOf : Nat → List Char → Option (List Step)
  | _, [] => some []
  | 0, _ => none
  | fuel + 1, '.' :: rest =>
    let name := rest.takeWhile isNameChar
    if name.isEmpty then none
    else (stepsOf fuel (rest.drop name.length)).map (.key (String.ofList name) :: ·)
  | fuel + 1, '[' :: rest =>
    let inner := rest.takeWhile (· != ']')
    match rest.drop inner.length with
    | ']' :: rest => do
      let isBlank (c : Char) : Bool := c == ' ' || c == '\t'
      let trimmed := ((inner.dropWhile isBlank).reverse.dropWhile isBlank).reverse
      let place ← place? trimmed
      (stepsOf fuel rest).map (.item place :: ·)
    | _ => none
  | _, _ => none

/-- The steps that a key means; a text that writes no steps is one key. -/
def steps (key : String) : String × List Step :=
  let cs := key.toList
  let first := cs.takeWhile isNameChar
  match if first.isEmpty then none else stepsOf cs.length (cs.drop first.length) with
  | some steps => (String.ofList first, steps)
  | none => (key, [])

/-- Changes what some steps lead to. -/
def alterAt (f : Setting → Setting) : List Step → Setting → Setting
  | [], s => f s
  | .key name :: rest, s =>
    let key := Text.lower name
    s.withEntry key (alterAt f rest ((s.entry? key).getD (nothing none)))
  | .item place :: rest, s =>
    s.withItem place (alterAt f rest
      ((s.items[placeIn s.items.length place]?).getD (nothing none)))

/-- A value put over what a key leads to. -/
def put (root : Setting) (key : String) (v : Setting) : Setting :=
  let (first, rest) := steps key
  let all := Step.key first :: rest
  match all.getLastD (.key first) with
  | .key name => alterAt (fun s => s.overEntry name v) all.dropLast root
  | .item place => alterAt (fun s => s.withItem place v) all.dropLast root

/-- A layer put over others, its keys one after another. -/
def putLayer (root : Setting) (layer : List (String × Setting)) : Setting :=
  layer.foldl (fun root e => root.put e.1 e.2) root

end Setting

end ControlPlane
