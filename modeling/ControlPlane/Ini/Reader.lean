import ControlPlane.Decimal.Numeral
import ControlPlane.Text.Characters

/-!
Reading INI text: entries of a key and a value, under the names of sections. A key ends at the next
`=` or `:`, a value at the end of its line unless it is in quotes; a backslash escapes the character
behind it. Comments stand on lines of their own, right at their start.
-/

namespace ControlPlane.Ini

/-- The entries under the name of a section, or before every name. -/
structure Part where
  name : Option String := none
  entries : List (String × String) := []
  deriving DecidableEq, Inhabited

/-! ### Text -/

/-- What a character behind a backslash stands for. -/
def escaped : Char → Char
  | '0' => '\x00'
  | 'a' => '\x07'
  | 'b' => '\x08'
  | 't' => '\t'
  | 'r' => '\r'
  | 'n' => '\n'
  | c => c

/-- The character of four digits of base sixteen. -/
def codePoint? (a b c d : Char) : Option Char := do
  let n ← [a, b, c, d].foldlM (fun n c => (Decimal.hexValue? c).map (16 * n + ·)) 0
  if n.isValidChar then some (Char.ofNat n) else none

/-- Reads up to a character that stops the text, which may end before it or not. -/
def readUntil (stops : Char → Bool) (mayEnd : Bool) : List Char → Option (List Char × List Char)
  | [] => if mayEnd then some ([], []) else none
  | '\\' :: 'x' :: a :: b :: c :: d :: rest => do
    let first ← codePoint? a b c d
    let (text, rest) ← readUntil stops mayEnd rest
    some (first :: text, rest)
  | '\\' :: e :: rest => do
    let (text, rest) ← readUntil stops mayEnd rest
    some (escaped e :: text, rest)
  | ['\\'] => none
  | c :: rest =>
    if stops c then some ([], c :: rest)
    else do
      let (text, rest) ← readUntil stops mayEnd rest
      some (c :: text, rest)

/-- The text without the blanks at its end. -/
def trimEnd (cs : List Char) : List Char := (cs.reverse.dropWhile Text.isBlank).reverse

/-- The text without the blanks at its ends. -/
def trimmed (cs : List Char) : String := String.ofList (trimEnd (cs.dropWhile Text.isBlank))

/-- Whether a character ends a line. -/
def endsLine (c : Char) : Bool := c == '\n' || c == '\r'

/-- Reads a value: quoted parts, and then what is left of the line. -/
def readValue : Nat → List Char → Option (List Char × List Char)
  | 0, _ => none
  | fuel + 1, cs =>
    match cs with
    | '"' :: rest => quoted fuel '"' rest
    | '\'' :: rest => quoted fuel '\'' rest
    | rest => (readUntil endsLine true rest).map fun r => (trimEnd r.1, r.2)
where
  quoted (fuel : Nat) (quote : Char) (cs : List Char) : Option (List Char × List Char) := do
    let (text, rest) ← readUntil (· == quote) false cs
    let (more, rest) ← readValue fuel (rest.drop 1)
    some (text ++ more, rest)

/-! ### Parts -/

/-- The part with an entry behind its others. -/
def Part.with (p : Part) (key value : String) : Part :=
  { p with entries := p.entries ++ [(key, value)] }

/-- Reads parts; the last one is at hand, and whether a line starts here. -/
def readParts : Nat → Bool → List Char → Part → Option (List Part)
  | 0, _, _, _ => none
  | fuel + 1, lineStart, cs, part =>
    match cs with
    | [] => some [part]
    | '[' :: rest => do
      let (name, rest) ← readUntil (· == ']') false rest
      (readParts fuel false (rest.drop 1) { name := some (trimmed name) }).map (part :: ·)
    | c :: rest =>
      if c = ';' ∨ c = '#' then
        if lineStart then readParts fuel true (rest.dropWhile (!endsLine ·)) part else none
      else if c = '=' ∨ c = ':' then none
      else if Text.isBlank c then readParts fuel (c == '\n') rest part
      else do
        let (key, rest) ← readUntil (fun c => c == '=' || c == ':') false cs
        let key := trimmed key
        if key.isEmpty then none
        let start := (rest.drop 1).dropWhile fun c => Text.isBlank c && !endsLine c
        let (value, rest) ← readValue (rest.length + 1) start
        readParts fuel false rest (part.with key (String.ofList value))

/-- Reads a text; the entries before every name come first. -/
def read? (text : String) : Option (List Part) :=
  let cs := text.toList
  readParts (cs.length + 1) true cs {}

end ControlPlane.Ini
