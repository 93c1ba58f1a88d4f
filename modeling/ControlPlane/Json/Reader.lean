import ControlPlane.Decimal.Numeral
import ControlPlane.Json.Basic

/-!
Reading JSON text. A number without a fraction or an exponent is a whole number as long as it fits
in 64 bits, signed or not; of two fields with one key the later one counts; nesting is limited.
-/

namespace ControlPlane.Json

/-! ### Characters and numbers -/

/-- Blanks between tokens. -/
def isBlank (c : Char) : Bool := c == ' ' || c == '\t' || c == '\n' || c == '\r'

/-- The rest after blanks. -/
def skipBlanks (cs : List Char) : List Char := cs.dropWhile isBlank

/-- A number split into its parts. -/
structure NumberText where
  negative : Bool
  whole : List Char
  fraction : Option (List Char)
  exponent : Option Int

/-- Reads a number: no zero stands before another digit, and digits stand on both sides of a
point. -/
def readNumber (cs : List Char) : Option (NumberText × List Char) := do
  let (negative, cs) := match cs with
    | '-' :: r => (true, r)
    | r => (false, r)
  let whole := cs.takeWhile Char.isDigit
  let rest := cs.dropWhile Char.isDigit
  match whole with
  | [] => none
  | '0' :: _ :: _ => none
  | _ =>
    match rest with
    | '.' :: r =>
      let fraction := r.takeWhile Char.isDigit
      if fraction.isEmpty then none
      else
        let (exponent, r) ← Decimal.readExponent (r.dropWhile Char.isDigit)
        some (⟨negative, whole, some fraction, exponent⟩, r)
    | r =>
      let (exponent, r) ← Decimal.readExponent r
      some (⟨negative, whole, none, exponent⟩, r)

/-- The value of a number; none when it is beyond double precision. -/
def NumberText.value? (t : NumberText) : Option Json :=
  let whole := Decimal.digitsToNat t.whole
  let float (digits : Nat) (exponent : Int) : Option Json :=
    let x := Binary64.ofDecimal t.negative digits exponent
    if x.isFinite then some (.float x) else none
  match t.fraction, t.exponent with
  | none, none =>
    if t.negative then
      if whole = 0 then some (.float (Binary64.zero true))
      else if Int64.minValue.toInt ≤ -(whole : Int) then some (.int (-(whole : Int)))
      else float whole 0
    else if whole < UInt64.size then some (.int whole)
    else float whole 0
  | fraction, exponent =>
    let places := fraction.getD []
    float (Decimal.digitsToNat (t.whole ++ places)) (exponent.getD 0 - places.length)

/-! ### Text -/

/-- Reads four hexadecimal digits. -/
def readHex4 : List Char → Option (Nat × List Char)
  | a :: b :: c :: d :: rest => do
    let a ← Decimal.hexValue? a
    let b ← Decimal.hexValue? b
    let c ← Decimal.hexValue? c
    let d ← Decimal.hexValue? d
    some (((a * 16 + b) * 16 + c) * 16 + d, rest)
  | _ => none

/-- Reads the rest of an escape that gives a code unit; two halves make one character. -/
def readUnit (cs : List Char) : Option (Char × List Char) := do
  let (unit, rest) ← readHex4 cs
  if 0xD800 ≤ unit && unit < 0xDC00 then
    match rest with
    | '\\' :: 'u' :: rest =>
      let (low, rest) ← readHex4 rest
      if 0xDC00 ≤ low && low < 0xE000 then
        some (Char.ofNat (0x10000 + (unit - 0xD800) * 0x400 + (low - 0xDC00)), rest)
      else none
    | _ => none
  else if 0xDC00 ≤ unit && unit < 0xE000 then none
  else some (Char.ofNat unit, rest)

/-- Reads text up to its closing quote; the characters read so far are kept in reverse. -/
def readText : Nat → List Char → List Char → Option (String × List Char)
  | 0, _, _ => none
  | fuel + 1, cs, acc =>
    match cs with
    | [] => none
    | '"' :: rest => some (String.ofList acc.reverse, rest)
    | '\\' :: e :: rest =>
      match e with
      | '"' => readText fuel rest ('"' :: acc)
      | '\\' => readText fuel rest ('\\' :: acc)
      | '/' => readText fuel rest ('/' :: acc)
      | 'b' => readText fuel rest ('\x08' :: acc)
      | 'f' => readText fuel rest ('\x0c' :: acc)
      | 'n' => readText fuel rest ('\n' :: acc)
      | 'r' => readText fuel rest ('\r' :: acc)
      | 't' => readText fuel rest ('\t' :: acc)
      | 'u' =>
        match readUnit rest with
        | some (c, rest) => readText fuel rest (c :: acc)
        | none => none
      | _ => none
    | c :: rest => if c.toNat < 32 then none else readText fuel rest (c :: acc)

/-! ### Values -/

/-- Levels of nesting that a reader admits. -/
def maxDepth : Nat := 127

mutual

/-- Reads a value after blanks. -/
def readValue : Nat → Nat → List Char → Option (Json × List Char)
  | 0, _, _ => none
  | fuel + 1, depth, cs =>
    match skipBlanks cs with
    | 'n' :: 'u' :: 'l' :: 'l' :: rest => some (.null, rest)
    | 't' :: 'r' :: 'u' :: 'e' :: rest => some (.bool true, rest)
    | 'f' :: 'a' :: 'l' :: 's' :: 'e' :: rest => some (.bool false, rest)
    | '"' :: rest => (readText (rest.length + 1) rest []).map fun r => (.str r.1, r.2)
    | '[' :: rest =>
      match depth with
      | 0 => none
      | depth + 1 =>
        match skipBlanks rest with
        | ']' :: rest => some (.arr [], rest)
        | rest => (readItems fuel depth rest []).map fun r => (.arr r.1, r.2)
    | '{' :: rest =>
      match depth with
      | 0 => none
      | depth + 1 =>
        match skipBlanks rest with
        | '}' :: rest => some (.obj [], rest)
        | rest => (readFields fuel depth rest []).map fun r => (.obj r.1, r.2)
    | rest =>
      match readNumber rest with
      | some (t, rest) => t.value?.map fun v => (v, rest)
      | none => none

/-- Reads the items of a list up to its closing bracket. -/
def readItems : Nat → Nat → List Char → List Json → Option (List Json × List Char)
  | 0, _, _, _ => none
  | fuel + 1, depth, cs, acc =>
    match readValue fuel depth cs with
    | none => none
    | some (v, rest) =>
      match skipBlanks rest with
      | ',' :: rest => readItems fuel depth rest (v :: acc)
      | ']' :: rest => some ((v :: acc).reverse, rest)
      | _ => none

/-- Reads the fields of an object up to its closing brace. -/
def readFields : Nat → Nat → List Char → List (String × Json) →
    Option (List (String × Json) × List Char)
  | 0, _, _, _ => none
  | fuel + 1, depth, cs, acc =>
    match skipBlanks cs with
    | '"' :: rest =>
      match readText (rest.length + 1) rest [] with
      | none => none
      | some (key, rest) =>
        match skipBlanks rest with
        | ':' :: rest =>
          match readValue fuel depth rest with
          | none => none
          | some (v, rest) =>
            match skipBlanks rest with
            | ',' :: rest => readFields fuel depth rest (Entries.insert key v acc)
            | '}' :: rest => some (Entries.insert key v acc, rest)
            | _ => none
        | _ => none
    | _ => none

end

/-- Reads a whole text as one value. Each step of the reader consumes a character or opens a
level, so twice the length of the text is enough. -/
def read? (text : String) : Option Json :=
  let cs := text.toList
  match readValue (2 * cs.length + 2) maxDepth cs with
  | some (v, rest) => if (skipBlanks rest).isEmpty then some v else none
  | none => none

end ControlPlane.Json
