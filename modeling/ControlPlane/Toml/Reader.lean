import ControlPlane.Toml.Number

/-!
Reading TOML: lines that head tables or give a key a value, put together into one table.
-/

namespace ControlPlane.Toml

/-! ### Keys -/

/-- Whether a character may stand in a key without quotes. -/
def isBareChar (c : Char) : Bool := c.isAlphanum || c == '_' || c == '-'

/-- Reads one part of a key. -/
def readName : List Char → Option (String × List Char)
  | '"' :: rest => readBasic (rest.length + 1) rest []
  | '\'' :: rest => readLiteral rest
  | cs =>
    let name := cs.takeWhile isBareChar
    if name.isEmpty then none else some (String.ofList name, cs.drop name.length)

/-- How many parts a key may have, and how deep values may be nested. -/
def maxDepth : Nat := 79

/-- Reads the parts of a key, and the blanks after it. -/
def readKey : Nat → List Char → Option (List String × List Char)
  | 0, _ => none
  | fuel + 1, cs => do
    let (name, rest) ← readName cs
    match skipBlanks rest with
    | '.' :: rest =>
      let (more, rest) ← readKey fuel (skipBlanks rest)
      pure (name :: more, rest)
    | rest => pure ([name], rest)

/-! ### Values -/

/-- The rest after a comment, if there is one. -/
def skipComment : List Char → List Char
  | '#' :: rest => rest.dropWhile isPlainChar
  | rest => rest

/-- The rest after blanks, line breaks and comments. -/
def skipLines : Nat → List Char → Option (List Char)
  | 0, _ => none
  | fuel + 1, cs =>
    match skipBlankLines cs with
    | '#' :: rest =>
      match lineBreak? (skipComment ('#' :: rest)) with
      | some rest => skipLines fuel rest
      | none => none
    | rest => some rest

mutual

/-- Reads a value. -/
def readValue : Nat → Nat → List Char → Option (Value × List Char)
  | 0, _, _ => none
  | fuel + 1, depth, cs =>
    match cs with
    | '"' :: rest => (readQuoted '"' rest).map fun r => (.text r.1, r.2)
    | '\'' :: rest => (readQuoted '\'' rest).map fun r => (.text r.1, r.2)
    | 't' :: 'r' :: 'u' :: 'e' :: rest => some (.bool true, rest)
    | 'f' :: 'a' :: 'l' :: 's' :: 'e' :: rest => some (.bool false, rest)
    | '[' :: rest =>
      match depth with
      | 0 => none
      | depth + 1 => readItems fuel depth rest []
    | '{' :: rest =>
      match depth with
      | 0 => none
      | depth + 1 =>
        match skipBlanks rest with
        | '}' :: rest => some (.table [], rest)
        | rest => readEntries fuel depth rest []
    | cs => (readMoment cs).orElse fun _ => readNumber cs

/-- Reads the items of an array up to its closing bracket; a comma may stand after the last. -/
def readItems : Nat → Nat → List Char → List Value → Option (Value × List Char)
  | 0, _, _, _ => none
  | fuel + 1, depth, cs, acc =>
    match skipLines (cs.length + 1) cs with
    | none => none
    | some (']' :: rest) => some (.array acc.reverse, rest)
    | some rest =>
      match readValue fuel depth rest with
      | none => none
      | some (v, rest) =>
        match skipLines (rest.length + 1) rest with
        | some (',' :: rest) => readItems fuel depth rest (v :: acc)
        | some (']' :: rest) => some (.array (v :: acc).reverse, rest)
        | _ => none

/-- Reads the entries of a table on one line up to its closing brace. -/
def readEntries : Nat → Nat → List Char → Parts → Option (Value × List Char)
  | 0, _, _, _ => none
  | fuel + 1, depth, cs, parts =>
    match readKey maxDepth cs with
    | some (key, '=' :: rest) =>
      match readValue fuel depth (skipBlanks rest) with
      | none => none
      | some (v, rest) =>
        match parts.assign v none key with
        | none => none
        | some parts =>
          match skipBlanks rest with
          | ',' :: rest => readEntries fuel depth (skipBlanks rest) parts
          | '}' :: rest => some (.table (finishParts parts), rest)
          | _ => none
    | _ => none

end

/-! ### Documents -/

/-- The rest after the end of a line. -/
def endLine (cs : List Char) : Option (List Char) :=
  match skipComment (skipBlanks cs) with
  | [] => some []
  | rest => lineBreak? rest

/-- Reads one line: the names of the table that later keys belong to, and all parts so far. -/
def readLine (current : List String) (parts : Parts) (cs : List Char) :
    Option (List String × Parts × List Char) :=
  match skipBlanks cs with
  | '[' :: '[' :: rest =>
    match readKey maxDepth (skipBlanks rest) with
    | some (names, ']' :: ']' :: rest) => do
      let parts ← parts.within (Parts.headNext (names.getLastD "")) names.dropLast
      pure (names, parts, ← endLine rest)
    | _ => none
  | '[' :: rest =>
    match readKey maxDepth (skipBlanks rest) with
    | some (names, ']' :: rest) => do
      let parts ← parts.within (Parts.head (names.getLastD "")) names.dropLast
      pure (names, parts, ← endLine rest)
    | _ => none
  | rest =>
    match endLine rest with
    | some rest => some (current, parts, rest)
    | none =>
      match readKey maxDepth rest with
      | some (key, '=' :: rest) => do
        let (v, rest) ← readValue (2 * rest.length + 2) maxDepth (skipBlanks rest)
        let parts ← parts.within (Parts.assign v none key) current
        pure (current, parts, ← endLine rest)
      | _ => none

/-- Reads the lines of a text. -/
def readDocument : Nat → List String → Parts → List Char → Option Parts
  | _, _, parts, [] => some parts
  | 0, _, _, _ => none
  | fuel + 1, current, parts, cs =>
    match readLine current parts cs with
    | some (current, parts, rest) => readDocument fuel current parts rest
    | none => none

/-- The entries of the table that a text is. Each line takes at least one character. -/
def read? (text : String) : Option (List (String × Value)) :=
  let cs := text.toList
  let cs := if cs.head? = some '\uFEFF' then cs.tail else cs
  (readDocument (cs.length + 1) [] [] cs).map finishParts

end ControlPlane.Toml
