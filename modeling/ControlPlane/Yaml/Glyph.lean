import ControlPlane.Yaml.Fault

/-!
The characters of a text with their places. Every line break but the two separators of Unicode is
the same character here, and the text ends with a mark of its own.
-/

namespace ControlPlane.Yaml

/-- A character and where it stands. -/
structure Glyph where
  char : Char
  line : Nat
  column : Nat
  /-- How many characters stand before it. -/
  index : Nat
  deriving DecidableEq, Inhabited

namespace Glyph

/-- The mark after the last character; no text contains it. -/
def endChar : Char := '\x00'

def isEnd (g : Glyph) : Bool := g.char == endChar

def isBlank (g : Glyph) : Bool := g.char == ' ' || g.char == '\t'

/-- Whether a character ends a line. -/
def isBreakChar (c : Char) : Bool := c == '\n' || c == '\u2028' || c == '\u2029'

def isBreak (g : Glyph) : Bool := isBreakChar g.char

def isBreakOrEnd (g : Glyph) : Bool := g.isBreak || g.isEnd

/-- Whether a token can end before a character whatever it is. -/
def isSpacing (g : Glyph) : Bool := g.isBlank || g.isBreakOrEnd

/-- Letters, digits and the two marks that join words. -/
def isWordChar (g : Glyph) : Bool := g.char.isAlphanum || g.char == '_' || g.char == '-'

/-- Whether a text may contain a character. -/
def isAllowed (c : Char) : Bool :=
  let n := c.toNat
  n == 0x09 || n == 0x0A || n == 0x0D || (0x20 ≤ n && n ≤ 0x7E) || n == 0x85 ||
    (0xA0 ≤ n && n ≤ 0xD7FF) || (0xE000 ≤ n && n ≤ 0xFFFD && n != 0xFEFF) || 0x10000 ≤ n

/-- The glyphs of characters that start at a place. -/
def place (line column index : Nat) : List Char → List Glyph
  | [] => [⟨endChar, line, column, index⟩]
  | '\r' :: '\n' :: rest => ⟨'\n', line, column, index⟩ :: place (line + 1) 0 (index + 2) rest
  | c :: rest =>
    if c = '\r' || c = '\u0085' then
      ⟨'\n', line, column, index⟩ :: place (line + 1) 0 (index + 1) rest
    else if isBreakChar c then
      ⟨c, line, column, index⟩ :: place (line + 1) 0 (index + 1) rest
    else ⟨c, line, column, index⟩ :: place line (column + 1) (index + 1) rest

/-- The glyphs of a text, without the byte order mark it may start with. -/
def ofText (text : String) : Except Fault (List Glyph) :=
  let chars := match text.toList with
    | '\uFEFF' :: rest => rest
    | chars => chars
  if chars.all isAllowed then .ok (place 0 0 0 chars) else .error .forbiddenCharacter

/-- Whether a character stands at the head of a list. -/
def startsWith (c : Char) : List Glyph → Bool
  | g :: _ => g.char == c
  | [] => false

/-- Whether a list starts with spacing. -/
def startsSpacing : List Glyph → Bool
  | g :: _ => g.isSpacing
  | [] => true

/-- Whether a document marker of a character stands at the start of a line. -/
def startsMarker (c : Char) : List Glyph → Bool
  | g₁ :: g₂ :: g₃ :: rest =>
    g₁.column == 0 && g₁.char == c && g₂.char == c && g₃.char == c && startsSpacing rest
  | _ => false

/-- Whether any document marker stands at the start of a line. -/
def startsAnyMarker (gs : List Glyph) : Bool := startsMarker '-' gs || startsMarker '.' gs

/-- The rest after blanks and a comment; it starts with a line break unless something else
stands on the line. -/
def dropComment (gs : List Glyph) : List Glyph :=
  let gs := gs.dropWhile isBlank
  if startsWith '#' gs then gs.dropWhile fun g => !g.isBreakOrEnd else gs

/-- The rest after the end of a line. -/
def dropBreak : List Glyph → List Glyph
  | g :: rest => if g.isBreak then rest else g :: rest
  | [] => []

/-- The rest after a line on which nothing but blanks and a comment is left. -/
def dropLine (fault : Fault) (gs : List Glyph) : Except Fault (List Glyph) :=
  match dropComment gs with
  | g :: rest => if g.isBreakOrEnd then .ok (dropBreak (g :: rest)) else .error fault
  | [] => .ok []

end Glyph

end ControlPlane.Yaml
