import ControlPlane.Json.Basic
import ControlPlane.Decimal.Layout

/-!
JSON text of free-form values, on one line or spread over lines with an indentation of two.
-/

namespace ControlPlane.Json

private def hexDigit (n : Nat) : Char := (Nat.digitChar n)

/-- The text of a character inside quotes: quotes, backslashes and control characters are
escaped, everything else stands for itself. -/
def escapeChar (c : Char) : String :=
  match c with
  | '"' => "\\\""
  | '\\' => "\\\\"
  | '\n' => "\\n"
  | '\r' => "\\r"
  | '\t' => "\\t"
  | '\x08' => "\\b"
  | '\x0c' => "\\f"
  | c =>
    if c.toNat < 32 then
      "\\u00" ++ String.ofList [hexDigit (c.toNat / 16), hexDigit (c.toNat % 16)]
    else c.toString

/-- Quoted text. -/
def quote (s : String) : String :=
  "\"" ++ s.foldl (fun acc c => acc ++ escapeChar c) "" ++ "\""

/-- The text of a double-precision number; what is not finite has none and is null. -/
def floatText (x : Binary64) : String :=
  if x.isFinite then Decimal.Layout.compact.render x else "null"

mutual

/-- The value on one line. -/
def compact : Json → String
  | .null => "null"
  | .bool b => if b then "true" else "false"
  | .int i => toString i
  | .float x => floatText x
  | .str s => quote s
  | .arr items => "[" ++ compactItems items ++ "]"
  | .obj fields => "\x7b" ++ compactFields fields ++ "\x7d"
termination_by structural x => x

/-- Items joined by commas. -/
def compactItems : List Json → String
  | [] => ""
  | [v] => v.compact
  | v :: rest => v.compact ++ "," ++ compactItems rest
termination_by structural x => x

/-- Fields joined by commas. -/
def compactFields : List (String × Json) → String
  | [] => ""
  | [(k, v)] => quote k ++ ":" ++ v.compact
  | (k, v) :: rest => quote k ++ ":" ++ v.compact ++ "," ++ compactFields rest
termination_by structural x => x

end

/-- A line break and the indentation of a depth. -/
def newline (depth : Nat) : String := "\n" ++ String.ofList (List.replicate (2 * depth) ' ')

mutual

/-- The value over several lines; empty lists and objects stay closed. -/
def prettyAt (depth : Nat) : Json → String
  | .arr [] => "[]"
  | .arr (v :: rest) => "[" ++ prettyItems (depth + 1) (v :: rest) ++ newline depth ++ "]"
  | .obj [] => "\x7b\x7d"
  | .obj (f :: rest) => "\x7b" ++ prettyFields (depth + 1) (f :: rest) ++ newline depth ++ "\x7d"
  | .null => "null"
  | .bool b => if b then "true" else "false"
  | .int i => toString i
  | .float x => floatText x
  | .str s => quote s
termination_by structural x => x

/-- Items, each on a line of its own. -/
def prettyItems (depth : Nat) : List Json → String
  | [] => ""
  | [v] => newline depth ++ prettyAt depth v
  | v :: rest => newline depth ++ prettyAt depth v ++ "," ++ prettyItems depth rest
termination_by structural x => x

/-- Fields, each on a line of its own. -/
def prettyFields (depth : Nat) : List (String × Json) → String
  | [] => ""
  | [(k, v)] => newline depth ++ quote k ++ ": " ++ prettyAt depth v
  | (k, v) :: rest =>
    newline depth ++ quote k ++ ": " ++ prettyAt depth v ++ "," ++ prettyFields depth rest
termination_by structural x => x

end

/-- The value over several lines. -/
def pretty (v : Json) : String := prettyAt 0 v

end ControlPlane.Json
