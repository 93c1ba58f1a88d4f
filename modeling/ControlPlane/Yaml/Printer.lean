import ControlPlane.Json.Printer
import ControlPlane.Yaml.Value

/-!
Printing free-form values as YAML in block style. A text is written plain where it would be read as
the same text, between single quotes where it would not, as a block of lines where it has line
breaks, and between double quotes where nothing else keeps it.
-/

namespace ControlPlane.Yaml.Printer

/-! ### Texts -/

/-- Whether a character ends a line. -/
def isBreak (c : Char) : Bool :=
  c == '\n' || c == '\r' || c == '\x85' || c == '\u2028' || c == '\u2029'

/-- Whether a character parts words or lines. -/
def isGap (c : Char) : Bool := c == ' ' || c == '\t' || c == '\x00' || isBreak c

/-- Whether a character may stand for itself. -/
def isPrintable (c : Char) : Bool :=
  c == '\n' || (' ' ≤ c && c ≤ '~') ||
    ('\xa0' ≤ c && c != '\uFEFF' && c != '\uFFFE' && c != '\uFFFF')

/-- Whether two characters of two kinds stand side by side. -/
def adjoin (first second : Char → Bool) : List Char → Bool
  | a :: b :: rest => (first a && second b) || adjoin first second (b :: rest)
  | _ => false

/-- Whether a character stands at an end of a text. -/
def atEnds (p : Char → Bool) (cs : List Char) : Bool := cs.head?.any p || cs.getLast?.any p

/-- Characters that no plain text starts with. -/
def openers : List Char :=
  ['#', ',', '[', ']', '{', '}', '&', '*', '!', '|', '>', '\'', '"', '%', '@', '\x60']

/-- Whether a text starts as something else would: with a mark of a document, with an opener, or
with an indicator before a gap. -/
def startsOtherwise (cs : List Char) : Bool :=
  match cs with
  | [] => false
  | c :: rest =>
    ['-', '-', '-'].isPrefixOf cs || ['.', '.', '.'].isPrefixOf cs || openers.contains c ||
      ((c == '?' || c == ':' || c == '-') && rest.head?.all isGap)

/-- Whether a colon before a gap, or a number sign after one, would end a plain text. -/
def endsEarly (cs : List Char) : Bool :=
  adjoin (· == ':') isGap cs || (1 < cs.length && cs.getLast? == some ':') ||
    adjoin isGap (· == '#') cs

/-- How a text is written. -/
inductive TextStyle where
  | plain
  | singleQuoted
  | doubleQuoted
  | block
  deriving DecidableEq

/-- Whether a plain text would be read as something else than this text. -/
def readsOtherwise (s : String) : Bool :=
  Plain.isZeroPadded s.toList ||
    match Value.ofPlain s with
    | .ok (.str _) => false
    | _ => true

/-- How a text is written. -/
def styleOf (s : String) : TextStyle :=
  let cs := s.toList
  let isSpace (c : Char) : Bool := c == ' '
  if !cs.all isPrintable || adjoin isSpace isBreak cs then .doubleQuoted
  else if cs.contains '\n' then
    if cs.getLast? == some ' ' then .doubleQuoted else .block
  else if adjoin isBreak isSpace cs then .doubleQuoted
  else if readsOtherwise s || atEnds isSpace cs || cs.any isBreak || startsOtherwise cs ||
      endsEarly cs then .singleQuoted
  else .plain

/-- The blanks that indent a line. -/
def blanks (n : Nat) : String := String.ofList (List.replicate n ' ')

/-- The text of lines, each that is not empty indented. -/
def indented (indent : Nat) (started : Bool) : List Char → String
  | [] => ""
  | c :: rest =>
    if isBreak c then c.toString ++ indented indent false rest
    else (if started then "" else blanks indent) ++ c.toString ++ indented indent true rest

/-- What the head of a block says of its lines: whether they start with a blank or a break, and how
many breaks end them. -/
def blockHead (cs : List Char) : String :=
  let start := if cs.head?.any fun c => c == ' ' || isBreak c then "2" else ""
  let stop := match cs.reverse with
    | [] => "-"
    | [c] => if isBreak c then "+" else "-"
    | c :: d :: _ => if !isBreak c then "-" else if isBreak d then "+" else ""
  "|" ++ start ++ stop

/-- The escape of a character between double quotes. -/
def escape (c : Char) : String :=
  let hex (length : Nat) : String :=
    let digits := (Nat.toDigits 16 c.toNat).map Char.toUpper
    String.ofList (List.replicate (length - digits.length) '0' ++ digits)
  "\\" ++ match c.toNat with
    | 0x00 => "0"
    | 0x07 => "a"
    | 0x08 => "b"
    | 0x09 => "t"
    | 0x0a => "n"
    | 0x0b => "v"
    | 0x0c => "f"
    | 0x0d => "r"
    | 0x1b => "e"
    | 0x22 => "\""
    | 0x5c => "\\"
    | 0x85 => "N"
    | 0xa0 => "_"
    | 0x2028 => "L"
    | 0x2029 => "P"
    | n => if n ≤ 0xff then "x" ++ hex 2 else if n ≤ 0xffff then "u" ++ hex 4 else "U" ++ hex 8

/-- A character between double quotes. -/
def doubleQuotedChar (c : Char) : String :=
  if !isPrintable c || isBreak c || c == '"' || c == '\\' then escape c else c.toString

/-- A text; its lines after the first are indented. -/
def text (indent : Nat) (s : String) : String :=
  let cs := s.toList
  match styleOf s with
  | .plain => s
  | .singleQuoted =>
    let doubled := cs.flatMap fun c => if c == '\'' then ['\'', '\''] else [c]
    "'" ++ indented indent true doubled ++
      (if cs.getLast?.any isBreak then blanks indent else "") ++ "'"
  | .doubleQuoted => "\"" ++ String.join (cs.map doubleQuotedChar) ++ "\""
  | .block => blockHead cs ++ "\n" ++ indented indent false cs

/-- The end of the line after a text; a block that ends with a break has ended it. -/
def lineEnd (s : String) : String :=
  if styleOf s = .block && s.toList.getLast?.any isBreak then "" else "\n"

/-! ### Values -/

/-- Whether a key stands on one line with the mark after it. -/
def isShortKey (s : String) : Bool := s.utf8ByteSize ≤ 128 && !s.toList.any isBreak

/-- A number that may have a fraction. -/
def float (x : Binary64) : String :=
  if x.isNaN then ".nan"
  else if x.isFinite then Json.floatText x
  else if x.isNegative then "-.inf" else ".inf"

/-- A key of a mapping up to the mark of its value. -/
def key (indent : Nat) (s : String) : String :=
  if isShortKey s then text (indent + 2) s ++ ":"
  else "? " ++ text (indent + 2) s ++ lineEnd s ++ blanks indent ++ ":"

mutual

/-- A value after its mark, and the end of its line. Collections start on a new line after a short
key; a list in a mapping is indented no further than the key. -/
def value (indent : Nat) (afterKey : Bool) : Json → String
  | .null => " null\n"
  | .bool b => if b then " true\n" else " false\n"
  | .int i => " " ++ toString i ++ "\n"
  | .float x => " " ++ float x ++ "\n"
  | .str s => " " ++ text (indent + 2) s ++ lineEnd s
  | .arr [] => " []\n"
  | .arr (v :: rest) =>
    if afterKey then "\n" ++ blanks indent ++ items indent (v :: rest)
    else " " ++ items (indent + 2) (v :: rest)
  | .obj [] => " \x7b\x7d\n"
  | .obj (f :: rest) =>
    (if afterKey then "\n" ++ blanks (indent + 2) else " ") ++ entries (indent + 2) (f :: rest)
termination_by structural x => x

/-- The items of a list, the first one where the line stands. -/
def items (indent : Nat) : List Json → String
  | [] => ""
  | [v] => "-" ++ value indent false v
  | v :: rest => "-" ++ value indent false v ++ blanks indent ++ items indent rest
termination_by structural x => x

/-- The entries of a mapping, the first one where the line stands. -/
def entries (indent : Nat) : List (String × Json) → String
  | [] => ""
  | [(k, v)] => key indent k ++ value indent (isShortKey k) v
  | (k, v) :: rest =>
    key indent k ++ value indent (isShortKey k) v ++ blanks indent ++ entries indent rest
termination_by structural x => x

end

/-- A value as a document. -/
def document : Json → String
  | .arr (v :: rest) => items 0 (v :: rest)
  | .obj (f :: rest) => entries 0 (f :: rest)
  | v => ((value 0 false v).drop 1).toString

end ControlPlane.Yaml.Printer
