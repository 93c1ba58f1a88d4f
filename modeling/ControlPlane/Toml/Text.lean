import ControlPlane.Decimal.Numeral

/-!
Quoted TOML texts: on one line or several, with escapes or without.
-/

namespace ControlPlane.Toml

/-- Whether a character may stand in a text or a comment as it is. -/
def isPlainChar (c : Char) : Bool := c == '\t' || (' ' ≤ c && c != '\x7f')

/-- The character of a number in base sixteen of a given length. -/
def readCodePoint (length : Nat) (cs : List Char) : Option (Char × List Char) := do
  let digits := cs.take length
  if digits.length < length then none
  let n ← digits.foldlM (fun n c => (Decimal.hexValue? c).map (16 * n + ·)) 0
  if h : n.isValidChar then some (Char.ofNatAux n h, cs.drop length) else none

/-- Reads what comes after a backslash. -/
def readEscape : List Char → Option (Char × List Char)
  | 'b' :: cs => some ('\x08', cs)
  | 't' :: cs => some ('\t', cs)
  | 'n' :: cs => some ('\n', cs)
  | 'f' :: cs => some ('\x0c', cs)
  | 'r' :: cs => some ('\r', cs)
  | '"' :: cs => some ('"', cs)
  | '\\' :: cs => some ('\\', cs)
  | 'u' :: cs => readCodePoint 4 cs
  | 'U' :: cs => readCodePoint 8 cs
  | _ => none

/-- Reads a text with escapes up to its quote; the characters read so far are kept in reverse. -/
def readBasic : Nat → List Char → List Char → Option (String × List Char)
  | 0, _, _ => none
  | fuel + 1, cs, acc =>
    match cs with
    | '"' :: rest => some (String.ofList acc.reverse, rest)
    | '\\' :: rest =>
      match readEscape rest with
      | some (c, rest) => readBasic fuel rest (c :: acc)
      | none => none
    | c :: rest => if isPlainChar c then readBasic fuel rest (c :: acc) else none
    | [] => none

/-- Reads a text without escapes up to its quote. -/
def readLiteral (cs : List Char) : Option (String × List Char) :=
  let text := cs.takeWhile fun c => isPlainChar c && c != '\''
  match cs.drop text.length with
  | '\'' :: rest => some (String.ofList text, rest)
  | _ => none

/-- Whether a character is a blank within a line. -/
def isBlank (c : Char) : Bool := c == ' ' || c == '\t'

/-- The rest after blanks within a line. -/
def skipBlanks (cs : List Char) : List Char := cs.dropWhile isBlank

/-- The rest after a line break. -/
def lineBreak? : List Char → Option (List Char)
  | '\n' :: rest => some rest
  | '\r' :: '\n' :: rest => some rest
  | _ => none

/-- The rest after blanks and line breaks; a carriage return that ends no line stays. -/
def skipBlankLines : List Char → List Char
  | '\r' :: '\n' :: rest => skipBlankLines rest
  | c :: rest => if isBlank c || c == '\n' then skipBlankLines rest else c :: rest
  | [] => []

/-- Reads a text of several lines up to three of its quotes; up to two more belong to it. -/
def readLines (quote : Char) (escapes : Bool) :
    Nat → List Char → List Char → Option (String × List Char)
  | 0, _, _ => none
  | fuel + 1, cs, acc =>
    match cs with
    | [] => none
    | c :: rest =>
      if c = quote then
        let count := (cs.takeWhile (· == quote)).length
        let after := cs.drop count
        if count < 3 then readLines quote escapes fuel after (List.replicate count quote ++ acc)
        else if count ≤ 5 then
          some (String.ofList (List.replicate (count - 3) quote ++ acc).reverse, after)
        else none
      else if escapes && c == '\\' then
        match lineBreak? (skipBlanks rest) with
        | some after => readLines quote escapes fuel (skipBlankLines after) acc
        | none =>
          match readEscape rest with
          | some (c, after) => readLines quote escapes fuel after (c :: acc)
          | none => none
      else
        match lineBreak? cs with
        | some after => readLines quote escapes fuel after ('\n' :: acc)
        | none => if isPlainChar c then readLines quote escapes fuel rest (c :: acc) else none

/-- Reads a text after its first quote. -/
def readQuoted (quote : Char) (cs : List Char) : Option (String × List Char) :=
  let escapes := quote == '"'
  match cs with
  | a :: b :: rest =>
    if a = quote ∧ b = quote then
      let first := (lineBreak? rest).getD rest
      readLines quote escapes (first.length + 1) first []
    else if escapes then readBasic (cs.length + 1) cs [] else readLiteral cs
  | cs => if escapes then readBasic (cs.length + 1) cs [] else readLiteral cs

end ControlPlane.Toml
