import ControlPlane.Decimal.Numeral
import ControlPlane.Json.Basic
import ControlPlane.Text.Characters

/-!
Reading JSON as people write it: with comments, with keys that are names, with either quote around
texts, with a comma behind the last item, and with more ways to write numbers.
-/

namespace ControlPlane.Json.Relaxed

/-! ### Blanks -/

/-- Whether a character ends a line. -/
def endsLine (c : Char) : Bool := c == '\n' || c == '\r' || c == '\u2028' || c == '\u2029'

/-- Whether a character is a blank between tokens. -/
def isBlank (c : Char) : Bool := (Text.isBlank c && c != '\x85') || c == '\uFEFF'

/-- Drops what is left of a comment of any length. -/
def dropComment : List Char → Option (List Char)
  | [] => none
  | '*' :: '/' :: rest => some rest
  | _ :: rest => dropComment rest

/-- Drops blanks and comments. -/
def skip : Nat → List Char → Option (List Char)
  | 0, _ => none
  | fuel + 1, cs =>
    match cs.dropWhile isBlank with
    | '/' :: '/' :: rest => skip fuel (rest.dropWhile (!endsLine ·))
    | '/' :: '*' :: rest => (dropComment rest).bind (skip fuel)
    | rest => some rest

/-! ### Texts and names -/

/-- Reads the digits of base sixteen of a character. -/
def readCode (count : Nat) (cs : List Char) : Option (Nat × List Char) := do
  let digits := cs.take count
  if digits.length < count then none
  let n ← digits.foldlM (fun n c => (Decimal.hexValue? c).map (16 * n + ·)) 0
  some (n, cs.drop count)

/-- Reads what comes behind a backslash; an end of a line stands for nothing. -/
def readEscape : List Char → Option (Option Char × List Char)
  | '\r' :: '\n' :: rest => some (none, rest)
  | 'x' :: rest => do
    let (n, rest) ← readCode 2 rest
    some (some (Char.ofNat n), rest)
  | 'u' :: rest => do
    let (n, rest) ← readCode 4 rest
    if 0xd800 ≤ n ∧ n < 0xdc00 then
      match rest with
      | '\\' :: 'u' :: rest =>
        let (low, rest) ← readCode 4 rest
        if 0xdc00 ≤ low ∧ low < 0xe000 then
          some (some (Char.ofNat (0x10000 + (n - 0xd800) * 0x400 + (low - 0xdc00))), rest)
        else none
      | _ => none
    else if n.isValidChar then some (some (Char.ofNat n), rest)
    else none
  | 'b' :: rest => some (some '\x08', rest)
  | 'f' :: rest => some (some '\x0c', rest)
  | 'n' :: rest => some (some '\n', rest)
  | 'r' :: rest => some (some '\r', rest)
  | 't' :: rest => some (some '\t', rest)
  | 'v' :: rest => some (some '\x0b', rest)
  | c :: rest =>
    if endsLine c then some (none, rest)
    else if c = '0' then
      if (rest.head?.any Char.isDigit) then none else some (some '\x00', rest)
    else if c.isDigit then none
    else some (some c, rest)
  | [] => none

/-- Reads a text up to its quote. -/
def readText (quote : Char) : Nat → List Char → List Char → Option (String × List Char)
  | 0, _, _ => none
  | fuel + 1, cs, acc =>
    match cs with
    | [] => none
    | '\\' :: rest => do
      let (c, rest) ← readEscape rest
      readText quote fuel rest (c.toList ++ acc)
    | c :: rest =>
      if c = quote then some (String.ofList acc.reverse, rest)
      else if c = '\n' ∨ c = '\r' then none
      else readText quote fuel rest (c :: acc)

/-- Whether a name may start with a character; all that is not ASCII counts as a letter. -/
def startsName (c : Char) : Bool := c.isAlpha || c == '$' || c == '_' || 128 ≤ c.toNat

/-- Reads a name. -/
def readName (cs : List Char) : Option (String × List Char) :=
  match cs with
  | c :: rest =>
    if startsName c then
      let more := rest.takeWhile fun c => startsName c || c.isDigit
      some (String.ofList (c :: more), rest.drop more.length)
    else none
  | [] => none

/-! ### Numbers -/

/-- Whether a character can belong to a number. -/
def isNumberChar (c : Char) : Bool := c.isAlphanum || c == '.' || c == '+' || c == '-'

/-- Whether a number has the digits it needs: some on either side of a point, and no zero before
another digit. -/
def isNumeral (cs : List Char) : Bool :=
  let whole := cs.takeWhile Char.isDigit
  let isWhole := whole.length ≤ 1 || whole.head? != some '0'
  match cs.drop whole.length with
  | '.' :: rest => isWhole && (!whole.isEmpty || rest.head?.any Char.isDigit)
  | _ => isWhole && !whole.isEmpty

/-- The number that a text without a sign means. -/
def number? (negative : Bool) (cs : List Char) : Option Json :=
  let whole (n : Nat) : Option Json :=
    let i : Int := if negative then -n else n
    if Decimal.isSigned64 i then some (.int i) else none
  match cs with
  | '0' :: x :: rest =>
    if x = 'x' ∨ x = 'X' then
      if rest.isEmpty then none
      else (rest.foldlM (fun n c => (Decimal.hexValue? c).map (16 * n + ·)) 0).bind whole
    else decimal whole cs
  | _ =>
    if cs = "Infinity".toList then some (.float (.infinity negative))
    else if cs = "NaN".toList then some (.float .nan)
    else decimal whole cs
where
  decimal (whole : Nat → Option Json) (cs : List Char) : Option Json :=
    if !isNumeral cs then none
    else if cs.all Char.isDigit then whole (Decimal.digitsToNat cs)
    else (Decimal.ofNumeral? ((if negative then ['-'] else []) ++ cs)).map .float

/-! ### Values -/

/-- The value of a name that is none of a number. -/
def word? : String → Option Json
  | "null" => some .null
  | "true" => some (.bool true)
  | "false" => some (.bool false)
  | _ => none

/-- Reads a single value. -/
def readSingle (cs : List Char) : Option (Json × List Char) :=
  match cs with
  | [] => none
  | c :: rest =>
    if c = '"' ∨ c = '\'' then
      (readText c (rest.length + 1) rest []).map fun r => (.str r.1, r.2)
    else
      let signed := c = '-' ∨ c = '+'
      let start := if signed then rest else cs
      let word := start.takeWhile isNumberChar
      let value := match if signed then none else word? (String.ofList word) with
        | some v => some v
        | none => number? (c == '-') word
      value.map fun v => (v, start.drop word.length)

/-- Reads a key up to the colon behind it. -/
def readKey (cs : List Char) : Option (String × List Char) := do
  let (key, rest) ← match cs with
    | '"' :: rest => readText '"' (rest.length + 1) rest []
    | '\'' :: rest => readText '\'' (rest.length + 1) rest []
    | _ => readName cs
  match ← skip (rest.length + 1) rest with
  | ':' :: rest => some (key, rest)
  | _ => none

mutual

/-- Reads a value after blanks. -/
def readValue : Nat → List Char → Option (Json × List Char)
  | 0, _ => none
  | fuel + 1, cs =>
    match skip (cs.length + 1) cs with
    | some ('[' :: rest) => (readItems fuel rest []).map fun r => (.arr r.1, r.2)
    | some ('{' :: rest) => (readFields fuel rest []).map fun r => (.obj r.1, r.2)
    | some rest => readSingle rest
    | none => none

/-- Reads the items of a list up to its closing bracket. -/
def readItems : Nat → List Char → List Json → Option (List Json × List Char)
  | 0, _, _ => none
  | fuel + 1, cs, acc =>
    match skip (cs.length + 1) cs with
    | some (']' :: rest) => some (acc.reverse, rest)
    | some rest =>
      match readValue fuel rest with
      | none => none
      | some (v, rest) =>
        match skip (rest.length + 1) rest with
        | some (',' :: rest) => readItems fuel rest (v :: acc)
        | some (']' :: rest) => some ((v :: acc).reverse, rest)
        | _ => none
    | none => none

/-- Reads the fields of an object up to its closing brace; of two with one key the later one
counts. -/
def readFields : Nat → List Char → List (String × Json) →
    Option (List (String × Json) × List Char)
  | 0, _, _ => none
  | fuel + 1, cs, acc =>
    match skip (cs.length + 1) cs with
    | some ('}' :: rest) => some (acc, rest)
    | some rest =>
      match readKey rest with
      | none => none
      | some (key, rest) =>
        match readValue fuel rest with
        | none => none
        | some (v, rest) =>
          match skip (rest.length + 1) rest with
          | some (',' :: rest) => readFields fuel rest (Entries.insert key v acc)
          | some ('}' :: rest) => some (Entries.insert key v acc, rest)
          | _ => none
    | none => none

end

/-- Reads a whole text as one value. A list or an object reads each of its parts with a character
less, so twice the length of the text is enough. -/
def read? (text : String) : Option Json := do
  let cs := text.toList
  let (v, rest) ← readValue (2 * cs.length + 2) cs
  match ← skip (rest.length + 1) rest with
  | [] => some v
  | _ => none

end ControlPlane.Json.Relaxed
