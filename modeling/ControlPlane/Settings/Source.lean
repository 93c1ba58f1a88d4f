import ControlPlane.Ini.Reader
import ControlPlane.Json.Reader
import ControlPlane.Json.Relaxed
import ControlPlane.Ron.Reader
import ControlPlane.Settings.Setting
import ControlPlane.Toml.Reader
import ControlPlane.Yaml.Value

/-!
Layers of settings: the tables that files of a known format and the environment give.
-/

namespace ControlPlane.Setting

/-! ### Numbers -/

/-- The whole number of 64 bits with a sign that a text means. -/
def wholeNumber? (s : String) : Option Int :=
  let (negative, ds) := match s.toList with
    | '-' :: ds => (true, ds)
    | '+' :: ds => (false, ds)
    | ds => (false, ds)
  if ds.isEmpty || !ds.all Char.isDigit then none
  else
    let n : Int := Decimal.digitsToNat ds
    let i := if negative then -n else n
    if Decimal.isSigned64 i then some i else none

/-- The double-precision number that a text means; words for infinity and for no number count. -/
def number? (s : String) : Option Binary64 :=
  let (negative, word) := match s.toList with
    | '-' :: cs => (true, cs)
    | '+' :: cs => (false, cs)
    | cs => (false, cs)
  match (String.ofList word).toLower with
  | "inf" | "infinity" => some (.infinity negative)
  | "nan" => some .nan
  | _ => Decimal.ofNumeral? s.toList

/-! ### TOML -/

mutual

/-- A TOML value as a setting; dates and times are texts. -/
def ofToml (origin : String) : Toml.Value → Setting
  | .text s => .text origin s
  | .int i => .int origin i
  | .float x => .float origin x
  | .bool b => .flag origin b
  | .moment s => .text origin s
  | .array items => .list origin (itemsOfToml origin items)
  | .table entries => .table origin (entriesOfToml origin entries)
termination_by structural x => x

/-- TOML values as settings. -/
def itemsOfToml (origin : String) : List Toml.Value → List Setting
  | [] => []
  | v :: rest => ofToml origin v :: itemsOfToml origin rest
termination_by structural x => x

/-- The entries of a TOML table as settings. -/
def entriesOfToml (origin : String) : List (String × Toml.Value) → List (String × Setting)
  | [] => []
  | (key, v) :: rest => (key, ofToml origin v) :: entriesOfToml origin rest
termination_by structural x => x

end

/-! ### JSON -/

/-- A whole number, which beyond 64 bits with a sign is a double-precision number. -/
def ofInt (origin : String) (i : Int) : Setting :=
  if Decimal.isSigned64 i then .int origin i else .float origin (Binary64.ofInt i)

mutual

/-- A free-form value as a setting. -/
def ofJson (origin : String) : Json → Setting
  | .null => .nothing origin
  | .bool b => .flag origin b
  | .int i => ofInt origin i
  | .float x => .float origin x
  | .str s => .text origin s
  | .arr items => .list origin (itemsOfJson origin items)
  | .obj fields => .table origin (entriesOfJson origin fields)
termination_by structural x => x

/-- Free-form values as settings. -/
def itemsOfJson (origin : String) : List Json → List Setting
  | [] => []
  | v :: rest => ofJson origin v :: itemsOfJson origin rest
termination_by structural x => x

/-- The fields of an object as settings. -/
def entriesOfJson (origin : String) : List (String × Json) → List (String × Setting)
  | [] => []
  | (key, v) :: rest => (key, ofJson origin v) :: entriesOfJson origin rest
termination_by structural x => x

end

/-! ### YAML -/

/-- What a plain scalar means; an infinity that is written with a point has no meaning here. -/
def ofPlain (origin s : String) : Option Setting :=
  let based (base : Nat) (digits : String) : Option Setting :=
    ((Yaml.Plain.digits? base digits.toList).filter fun n => Decimal.isSigned64 n).map
      fun n => .int origin n
  let whole : Option Setting :=
    if s.startsWith "0x" then based 16 (s.drop 2).toString
    else if s.startsWith "0o" then based 8 (s.drop 2).toString
    else none
  match whole, wholeNumber? s, number? s with
  | some v, _, _ => some v
  | none, some i, _ => some (.int origin i)
  | none, none, some x => some (.float origin x)
  | none, none, none =>
    if s == "~" || s == "null" || s.isEmpty then some (.nothing origin)
    else if s == "true" then some (.flag origin true)
    else if s == "false" then some (.flag origin false)
    else if (Yaml.Plain.float? s).isSome then none
    else some (.text origin s)

/-- What a scalar with a tag of the core schema means; one that is not what its tag announces means
nothing. -/
def ofTagged (origin tag s : String) : Option Setting :=
  let orNothing (v : Option Setting) : Option Setting := some (v.getD (.nothing origin))
  if tag = Yaml.Value.coreStem ++ "bool" then
    orNothing ((Yaml.Plain.bool? s).map (.flag origin))
  else if tag = Yaml.Value.coreStem ++ "int" then orNothing ((wholeNumber? s).map (.int origin))
  else if tag = Yaml.Value.coreStem ++ "float" then
    if (Yaml.Plain.float? s).isSome || (number? s).isSome then (number? s).map (.float origin)
    else some (.nothing origin)
  else if tag = Yaml.Value.coreStem ++ "null" then some (.nothing origin)
  else some (.text origin s)

/-- What a scalar means. -/
def ofScalar (origin : String) (tag : Option String) (s : Yaml.Scalar) : Option Setting :=
  if s.style != .plain then some (.text origin s.text)
  else
    match tag with
    | none => ofPlain origin s.text
    | some tag => ofTagged origin tag s.text

/-- The key that a setting is. -/
def key? : Setting → Option String
  | .text _ s => some s
  | .int _ i => some (toString i)
  | _ => none

/-- What a node means; of two entries with one key the later one counts. -/
def ofNode (origin : String) (d : Yaml.Document) : Nat → Yaml.Node → Option Setting
  | 0, _ => none
  | fuel + 1, node =>
    match node with
    | .scalar tag s => ofScalar origin tag s
    | .sequence _ items => (items.mapM (ofNode origin d fuel)).map (.list origin)
    | .mapping _ entries => do
      let entries ← entries.foldlM (fun acc (e : Yaml.Node × Yaml.Node) => do
        let key ← (← ofNode origin d fuel e.1).key?
        pure (putEntry key (← ofNode origin d fuel e.2) acc)) []
      pure (.table origin entries)
    | .alias number => (Yaml.Value.nodeOf? d.anchored number).bind (ofNode origin d fuel)

/-- What the only document of a text means; a text without documents means a table without
entries. A way through nodes that meets none twice is no longer than the document. -/
def ofYaml (origin text : String) : Option Setting := do
  match ← ((Yaml.Document.ofText text).mapM fun d => d.toOption) with
  | [] => some (.table origin [])
  | [d] => ofNode origin d (d.size + 1) d.root
  | _ => none

/-! ### INI -/

/-- The entries of an INI text, all of them texts; of two sections with one name the later one
counts. -/
def entriesOfIni (origin : String) (parts : List Ini.Part) : List (String × Setting) :=
  parts.foldl (fun acc part =>
    let entries := part.entries.map fun e => (e.1, text origin e.2)
    match part.name with
    | some name => putEntry name
        (table origin (entries.foldl (fun inner e => putEntry e.1 e.2 inner) [])) acc
    | none => entries.foldl (fun acc e => putEntry e.1 e.2 acc) acc) []

/-! ### Files -/

/-- The formats of files that give settings. -/
inductive Format where
  | toml
  | json
  | yaml
  | ini
  | ron
  | relaxedJson
  deriving DecidableEq

/-- The formats with the extensions of their files. -/
def formats : List (Format × List String) :=
  [(.toml, ["toml"]), (.json, ["json"]), (.yaml, ["yaml", "yml"]), (.ini, ["ini"]),
    (.ron, ["ron"]), (.relaxedJson, ["json5"])]

/-- The format of files with an extension. -/
def formatOf? (extension : String) : Option Format :=
  (formats.find? fun f => f.2.contains extension).map Prod.fst

/-- What a text in a format means. -/
def ofText (format : Format) (origin text : String) : Option Setting :=
  match format with
  | .toml => (Toml.read? text).map fun entries => .table origin (entriesOfToml origin entries)
  | .json => (Json.read? text).map (ofJson origin)
  | .yaml => ofYaml origin text
  | .ini => (Ini.read? text).map fun parts => .table origin (entriesOfIni origin parts)
  | .ron => (Ron.read? text).map (ofJson origin)
  | .relaxedJson => (Json.Relaxed.read? text).map (ofJson origin)

/-- The layer that a text in a format gives: it must mean a table. -/
def layerOfText (format : Format) (origin text : String) : Option (List (String × Setting)) :=
  match ofText format origin text with
  | some (.table _ entries) => some entries
  | _ => none

/-! ### The environment -/

/-- The text before which the keys of variables start. -/
def variableStem : String := "agent_operator__"

/-- The place of settings that variables give. -/
def environmentOrigin : String := "the environment"

/-- What the value of a variable means: a truth value, else a whole number, else a number, else
its text. -/
def ofVariable (value : String) : Setting :=
  let origin := environmentOrigin
  match Text.lower value with
  | "true" => .flag origin true
  | "false" => .flag origin false
  | _ =>
    match wholeNumber? value, number? value with
    | some i, _ => .int origin i
    | none, some x => .float origin x
    | none, none => .text origin value

/-- A name with a point for every two underscores, from its start on. -/
def pointed : List Char → List Char
  | '_' :: '_' :: rest => '.' :: pointed rest
  | c :: rest => c :: pointed rest
  | [] => []

/-- The key of a setting that a variable gives: what comes after the stem, two underscores being
a step. -/
def keyOfVariable? (name : String) : Option String :=
  let name := Text.lower name
  if name.startsWith variableStem then
    some (String.ofList (pointed (name.drop variableStem.length).toString.toList))
  else none

/-- The layer that variables give, put in the order of their names. -/
def ofVariables (environment : Dictionary String String) : List (String × Setting) :=
  environment.entries.filterMap fun e => (keyOfVariable? e.1).map fun key => (key, ofVariable e.2)

end ControlPlane.Setting
