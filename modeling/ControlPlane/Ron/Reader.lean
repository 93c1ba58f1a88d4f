import ControlPlane.Decimal.Numeral
import ControlPlane.Json.Basic
import ControlPlane.Text.Characters

/-!
Reading RON text as a free-form value. Structures with named fields and maps are objects, lists and
tuples are lists; a name before a structure tells nothing, and what may be left out is null or what
it is.
-/

namespace ControlPlane.Ron

/-! ### Blanks -/

/-- Drops what is left of a comment of any length; comments stand within comments. -/
def dropComment : Nat → List Char → Option (List Char)
  | _, [] => none
  | depth, '/' :: '*' :: rest => dropComment (depth + 1) rest
  | 0, '*' :: '/' :: rest => some rest
  | depth + 1, '*' :: '/' :: rest => dropComment depth rest
  | depth, _ :: rest => dropComment depth rest

/-- Drops blanks and comments. -/
def skip : Nat → List Char → Option (List Char)
  | 0, _ => none
  | fuel + 1, cs =>
    match cs.dropWhile Text.isBlank with
    | '/' :: '/' :: rest => skip fuel (rest.dropWhile (· != '\n'))
    | '/' :: '*' :: rest => (dropComment 0 rest).bind (skip fuel)
    | rest => some rest

/-! ### Texts and names -/

/-- Reads what comes behind a backslash. -/
def readEscape : List Char → Option (Char × List Char)
  | 'x' :: a :: b :: rest => do
    let n := 16 * (← Decimal.hexValue? a) + (← Decimal.hexValue? b)
    some (Char.ofNat n, rest)
  | 'u' :: '{' :: rest => do
    let digits := rest.takeWhile (· != '}')
    if digits.isEmpty ∨ 6 < digits.length then none
    let n ← digits.foldlM (fun n c => (Decimal.hexValue? c).map (16 * n + ·)) 0
    if n.isValidChar then some (Char.ofNat n, (rest.drop digits.length).drop 1) else none
  | '"' :: rest => some ('"', rest)
  | '\'' :: rest => some ('\'', rest)
  | '\\' :: rest => some ('\\', rest)
  | 'n' :: rest => some ('\n', rest)
  | 'r' :: rest => some ('\r', rest)
  | 't' :: rest => some ('\t', rest)
  | '0' :: rest => some ('\x00', rest)
  | _ => none

/-- Reads a text up to its quote. -/
def readText : Nat → List Char → List Char → Option (String × List Char)
  | 0, _, _ => none
  | fuel + 1, cs, acc =>
    match cs with
    | [] => none
    | '"' :: rest => some (String.ofList acc.reverse, rest)
    | '\\' :: rest => do
      let (c, rest) ← readEscape rest
      readText fuel rest (c :: acc)
    | c :: rest => readText fuel rest (c :: acc)

/-- Reads a text in which nothing is escaped up to its quote and a number of hashes. -/
def readRaw (hashes : Nat) : List Char → List Char → Option (String × List Char)
  | [], _ => none
  | c :: rest, acc =>
    if c = '"' ∧ rest.take hashes = List.replicate hashes '#' then
      some (String.ofList acc.reverse, rest.drop hashes)
    else readRaw hashes rest (c :: acc)

/-- Reads a single character up to its quote. -/
def readChar (cs : List Char) : Option (Char × List Char) := do
  let (c, rest) ← match cs with
    | '\\' :: rest => readEscape rest
    | c :: rest => some (c, rest)
    | [] => none
  match rest with
  | '\'' :: rest => some (c, rest)
  | _ => none

/-- Reads a name. -/
def readName (cs : List Char) : Option (String × List Char) :=
  match cs with
  | c :: rest =>
    if c.isAlpha || c == '_' then
      let more := rest.takeWhile fun c => c.isAlphanum || c == '_'
      some (String.ofList (c :: more), rest.drop more.length)
    else none
  | [] => none

/-! ### Numbers -/

/-- Whether a character can belong to a number. -/
def isNumberChar (c : Char) : Bool :=
  c.isAlphanum || c == '.' || c == '_' || c == '+' || c == '-'

/-- The whole number of digits in a base. -/
def inBase? (base : Nat) (digits : List Char) : Option Nat :=
  if digits.isEmpty then none
  else digits.foldlM (fun n c => ((Decimal.hexValue? c).filter (· < base)).map (base * n + ·)) 0

/-- The number that a text means. -/
def number? (cs : List Char) : Option Json :=
  let (negative, start) := match cs with
    | '-' :: rest => (true, rest)
    | '+' :: rest => (false, rest)
    | rest => (false, rest)
  let digits := start.filter (· != '_')
  let whole (n : Nat) : Option Json :=
    let i : Int := if negative then -n else n
    if Decimal.isSigned64 i then some (.int i) else none
  match digits with
  | '0' :: 'x' :: rest => (inBase? 16 rest).bind whole
  | '0' :: 'o' :: rest => (inBase? 8 rest).bind whole
  | '0' :: 'b' :: rest => (inBase? 2 rest).bind whole
  | _ =>
    if !digits.isEmpty && digits.all Char.isDigit then whole (Decimal.digitsToNat digits)
    else if digits = "inf".toList then some (.float (.infinity negative))
    else if digits = "NaN".toList then some (.float .nan)
    else (Decimal.ofNumeral? ((if negative then ['-'] else []) ++ digits)).map .float

/-! ### Values -/

/-- Whether the fields of what starts here have names. -/
def hasNames (cs : List Char) : Bool :=
  match readName cs with
  | none => false
  | some (_, rest) =>
    match skip (rest.length + 1) rest with
    | some (':' :: rest) => rest.head? != some ':'
    | _ => false

/-- The key that a value is. -/
def key? : Json → Option String
  | .str s => some s
  | _ => none

mutual

/-- Reads a value after blanks. -/
def readValue : Nat → List Char → Option (Json × List Char)
  | 0, _ => none
  | fuel + 1, cs =>
    match skip (cs.length + 1) cs with
    | none => none
    | some cs =>
      match cs with
      | '(' :: rest => readStructure fuel rest
      | '[' :: rest => (readItems fuel ']' rest []).map fun r => (.arr r.1, r.2)
      | '{' :: rest => (readEntries fuel rest []).map fun r => (.obj r.1, r.2)
      | '"' :: rest => (readText (rest.length + 1) rest []).map fun r => (.str r.1, r.2)
      | '\'' :: rest => (readChar rest).map fun r => (.str r.1.toString, r.2)
      | 'r' :: '"' :: rest => (readRaw 0 rest []).map fun r => (.str r.1, r.2)
      | 'r' :: '#' :: rest =>
        let hashes := rest.takeWhile (· == '#')
        match rest.drop hashes.length with
        | '"' :: rest => (readRaw (hashes.length + 1) rest []).map fun r => (.str r.1, r.2)
        | _ => none
      | cs =>
        match readName cs with
        | some (name, rest) => readNamed fuel name rest
        | none =>
          let word := cs.takeWhile isNumberChar
          (number? word).map fun v => (v, cs.drop word.length)

/-- Reads what a name starts. -/
def readNamed : Nat → String → List Char → Option (Json × List Char)
  | 0, _, _ => none
  | fuel + 1, name, rest =>
    match name with
    | "true" => some (.bool true, rest)
    | "false" => some (.bool false, rest)
    | "None" => some (.null, rest)
    | "inf" => some (.float (.infinity false), rest)
    | "NaN" => some (.float .nan, rest)
    | _ =>
      match skip (rest.length + 1) rest with
      | some ('(' :: inner) =>
        if name = "Some" then
          match readItems fuel ')' inner [] with
          | some ([v], rest) => some (v, rest)
          | _ => none
        else readStructure fuel inner
      | some rest => some (.null, rest)
      | none => none

/-- Reads what stands in round brackets: nothing, fields with names, or items. -/
def readStructure : Nat → List Char → Option (Json × List Char)
  | 0, _ => none
  | fuel + 1, cs =>
    match skip (cs.length + 1) cs with
    | some (')' :: rest) => some (.null, rest)
    | some cs =>
      if hasNames cs then (readFields fuel cs []).map fun r => (.obj r.1, r.2)
      else (readItems fuel ')' cs []).map fun r => (.arr r.1, r.2)
    | none => none

/-- Reads items up to a closing bracket. -/
def readItems : Nat → Char → List Char → List Json → Option (List Json × List Char)
  | 0, _, _, _ => none
  | fuel + 1, close, cs, acc =>
    match skip (cs.length + 1) cs with
    | none | some [] => none
    | some (c :: rest) =>
      if c = close then some (acc.reverse, rest)
      else
        match readValue fuel (c :: rest) with
        | none => none
        | some (v, rest) =>
          match skip (rest.length + 1) rest with
          | none | some [] => none
          | some (c :: rest) =>
            if c = ',' then readItems fuel close rest (v :: acc)
            else if c = close then some ((v :: acc).reverse, rest)
            else none

/-- Reads the fields of a structure; of two with one name the later one counts. -/
def readFields : Nat → List Char → List (String × Json) →
    Option (List (String × Json) × List Char)
  | 0, _, _ => none
  | fuel + 1, cs, acc =>
    match skip (cs.length + 1) cs with
    | none => none
    | some (')' :: rest) => some (acc, rest)
    | some cs =>
      match readName cs with
      | none => none
      | some (name, rest) =>
        match skip (rest.length + 1) rest with
        | some (':' :: rest) =>
          match readValue fuel rest with
          | none => none
          | some (v, rest) =>
            match skip (rest.length + 1) rest with
            | some (',' :: rest) => readFields fuel rest (Entries.insert name v acc)
            | some (')' :: rest) => some (Entries.insert name v acc, rest)
            | _ => none
        | _ => none

/-- Reads the entries of a map; of two with one key the later one counts. -/
def readEntries : Nat → List Char → List (String × Json) →
    Option (List (String × Json) × List Char)
  | 0, _, _ => none
  | fuel + 1, cs, acc =>
    match skip (cs.length + 1) cs with
    | none => none
    | some ('}' :: rest) => some (acc, rest)
    | some cs =>
      match readValue fuel cs with
      | none => none
      | some (k, rest) =>
        match key? k, skip (rest.length + 1) rest with
        | some key, some (':' :: rest) =>
          match readValue fuel rest with
          | none => none
          | some (v, rest) =>
            match skip (rest.length + 1) rest with
            | some (',' :: rest) => readEntries fuel rest (Entries.insert key v acc)
            | some ('}' :: rest) => some (Entries.insert key v acc, rest)
            | _ => none
        | _, _ => none

end

/-- Reads a whole text as one value. Every character opens at most one structure, which takes three
steps to read, so four times the length of the text is enough. -/
def read? (text : String) : Option Json := do
  let cs := text.toList
  let (v, rest) ← readValue (4 * cs.length + 4) cs
  match ← skip (rest.length + 1) rest with
  | [] => some v
  | _ => none

end ControlPlane.Ron
