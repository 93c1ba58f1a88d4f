import ControlPlane.Decimal.Numeral
import ControlPlane.Yaml.Glyph

/-!
Scalars as they are written: plain, quoted or as a block. Reading one gives its text, the line
breaks inside it folded as its style wants it, and what follows it.
-/

namespace ControlPlane.Yaml

/-- How a scalar is written. -/
inductive Style where
  | plain
  | single
  | double
  | literal
  | folded
  deriving DecidableEq, Inhabited

/-- A scalar as it is written. -/
structure Scalar where
  text : String
  style : Style
  deriving DecidableEq, Inhabited

/-! ### Gaps -/

/-- Blanks or line breaks that have been read inside a scalar. -/
inductive Gap where
  | none
  | blanks (chars : List Char)
  /-- The first line break, if it counts, and the breaks after it; blanks around them are
  dropped. -/
  | lines (first : Option Char) (more : List Char)
  deriving DecidableEq, Inhabited

namespace Gap

/-- Adds a blank. -/
def addBlank (c : Char) : Gap → Gap
  | none => blanks [c]
  | blanks cs => blanks (cs ++ [c])
  | lines first more => lines first more

/-- Adds a line break. -/
def addBreak (c : Char) : Gap → Gap
  | lines first more => lines first (more ++ [c])
  | _ => lines (some c) []

def isLines : Gap → Bool
  | lines .. => true
  | _ => false

/-- What a gap leaves in the text: a single line break becomes a blank, more of them lose the
first. -/
def text : Gap → List Char
  | none => []
  | blanks cs => cs
  | lines (some '\n') [] => [' ']
  | lines (some '\n') more => more
  | lines first more => first.toList ++ more

end Gap

namespace Scalar

/-- A text of characters collected in reverse. -/
def textOf (reversed : List Char) : String := String.ofList reversed.reverse

/-! ### Quoted scalars -/

/-- Reads a scalar in single quotes, the first of them read already. -/
def single (gap : Gap) (acc : List Char) : List Glyph → Except Fault (String × List Glyph)
  | [] => .error .unterminated
  | g :: rest =>
    if g.isEnd then .error .unterminated
    else if Glyph.startsAnyMarker (g :: rest) then .error .markerInScalar
    else if g.isBlank then single (gap.addBlank g.char) acc rest
    else if g.isBreak then single (gap.addBreak g.char) acc rest
    else
      let acc := gap.text.reverse ++ acc
      if g.char = '\'' then
        match rest with
        | q :: more =>
          if q.char = '\'' then single .none ('\'' :: acc) more else .ok (textOf acc, rest)
        | [] => .ok (textOf acc, [])
      else single .none (g.char :: acc) rest

/-- The character of an escape of one letter. -/
def escaped? : Char → Option Char
  | '0' => some '\x00'
  | 'a' => some '\x07'
  | 'b' => some '\x08'
  | 't' | '\t' => some '\t'
  | 'n' => some '\n'
  | 'v' => some '\x0b'
  | 'f' => some '\x0c'
  | 'r' => some '\r'
  | 'e' => some '\x1b'
  | ' ' => some ' '
  | '"' => some '"'
  | '/' => some '/'
  | '\\' => some '\\'
  | 'N' => some '\u0085'
  | '_' => some '\u00a0'
  | 'L' => some '\u2028'
  | 'P' => some '\u2029'
  | _ => none

/-- The number of hexadecimal digits after the letter of an escape. -/
def hexLength? : Char → Option Nat
  | 'x' => some 2
  | 'u' => some 4
  | 'U' => some 8
  | _ => none

/-- What is being read of a scalar in double quotes. -/
inductive Reading where
  | text
  | escape
  /-- The digits of an escape, so many of them to come. -/
  | hex (left value : Nat)

/-- The character of a code point that an escape gives. -/
def ofCodePoint? (n : Nat) : Option Char :=
  if n < 0xD800 || (0xDFFF < n && n ≤ 0x10FFFF) then some (Char.ofNat n) else none

/-- Reads a scalar in double quotes, the first of them read already. -/
def double (reading : Reading) (gap : Gap) (acc : List Char) :
    List Glyph → Except Fault (String × List Glyph)
  | [] => .error .unterminated
  | g :: rest =>
    match reading with
    | .text =>
      if g.isEnd then .error .unterminated
      else if Glyph.startsAnyMarker (g :: rest) then .error .markerInScalar
      else if g.isBlank then double .text (gap.addBlank g.char) acc rest
      else if g.isBreak then double .text (gap.addBreak g.char) acc rest
      else
        let acc := gap.text.reverse ++ acc
        if g.char = '"' then .ok (textOf acc, rest)
        else if g.char = '\\' then double .escape .none acc rest
        else double .text .none (g.char :: acc) rest
    | .escape =>
      if g.isBreak then double .text (.lines none []) acc rest
      else
        match escaped? g.char, hexLength? g.char with
        | some c, _ => double .text .none (c :: acc) rest
        | none, some n => double (.hex n 0) .none acc rest
        | none, none => .error .badEscape
    | .hex left value =>
      match Decimal.hexValue? g.char with
      | none => .error .badEscape
      | some digit =>
        let value := 16 * value + digit
        if left ≤ 1 then
          match ofCodePoint? value with
          | some c => double .text .none (c :: acc) rest
          | none => .error .badEscape
        else double (.hex (left - 1) value) .none acc rest

/-! ### Plain scalars -/

/-- Whether a plain scalar ends before the head of a list. -/
def endsPlain (flow : Bool) : List Glyph → Bool
  | g :: rest =>
    (g.char == ':' && Glyph.startsSpacing rest) ||
      (flow && (g.char == ',' || g.char == '[' || g.char == ']' || g.char == '{' || g.char == '}'))
  | [] => true

/-- Whether a colon stands before an indicator that cannot follow one within a flow collection. -/
def isStrayColon : List Glyph → Bool
  | g :: n :: _ =>
    g.char == ':' && (n.char == ',' || n.char == '?' || n.char == '[' || n.char == ']' ||
      n.char == '{' || n.char == '}')
  | _ => false

/-- Reads a plain scalar that must stand at a column at least; also tells whether line breaks
follow it. -/
def plain (flow : Bool) (column : Nat) (gap : Gap) (acc : List Char) :
    List Glyph → Except Fault (String × Bool × List Glyph)
  | [] => .ok (textOf acc, gap.isLines, [])
  | g :: rest =>
    let stop := Except.ok (textOf acc, gap.isLines, g :: rest)
    if g.isEnd then stop
    else if g.isBlank then
      if gap.isLines && g.column < column && g.char = '\t' then .error .strayTab
      else plain flow column (gap.addBlank g.char) acc rest
    else if g.isBreak then plain flow column (gap.addBreak g.char) acc rest
    else if gap != .none && ((!flow && g.column < column) || g.char = '#') then stop
    else if Glyph.startsAnyMarker (g :: rest) then stop
    else if flow && isStrayColon (g :: rest) then .error .strayCharacter
    else if endsPlain flow (g :: rest) then stop
    else plain flow column .none (g.char :: (gap.text.reverse ++ acc)) rest

/-! ### Block scalars -/

/-- What becomes of the line breaks at the end of a block scalar. -/
inductive Chomping where
  | strip
  | clip
  | keep
  deriving DecidableEq, Inhabited

/-- The chomping that a character stands for. -/
def chomping? : Char → Option Chomping
  | '-' => some .strip
  | '+' => some .keep
  | _ => none

/-- The indentation that a digit stands for; zero stands for none. -/
def increment? (c : Char) : Option Nat := if c.isDigit then some (c.toNat - 48) else none

/-- The chomping and the indentation of a block scalar as its first line gives them. -/
structure BlockHeader where
  chomping : Chomping := .clip
  increment : Option Nat := none

/-- Reads the rest of the first line of a block scalar. -/
def blockHeader (gs : List Glyph) : Except Fault (BlockHeader × List Glyph) := do
  let (header, rest) := match gs with
    | a :: b :: rest =>
      match chomping? a.char, increment? a.char with
      | some c, _ =>
        match increment? b.char with
        | some n => (BlockHeader.mk c (some n), rest)
        | none => (BlockHeader.mk c none, b :: rest)
      | none, some n =>
        match chomping? b.char with
        | some c => (BlockHeader.mk c (some n), rest)
        | none => (BlockHeader.mk .clip (some n), b :: rest)
      | none, none => (BlockHeader.mk .clip none, gs)
    | _ => (BlockHeader.mk .clip none, gs)
  if header.increment = some 0 then throw .badBlockHeader
  pure (header, ← Glyph.dropLine .badBlockHeader rest)

/-- How far a block scalar has been read. -/
structure BlockState where
  /-- The column of its lines; zero while it is not known. -/
  indent : Nat
  /-- The widest column reached while it is not known. -/
  widest : Nat := 0
  inLine : Bool := false
  /-- The break that ended the line read last. -/
  lineBreak : Option Char := none
  /-- Whether that line started with a blank. -/
  blankStart : Bool := false
  /-- The breaks of the empty lines since, in reverse. -/
  emptyLines : List Char := []
  /-- The text so far, in reverse. -/
  acc : List Char := []

namespace BlockState

/-- Begins a line: the break before it is folded if both lines start with text. -/
def beginLine (folded : Bool) (s : BlockState) (g : Glyph) : BlockState :=
  let acc :=
    if folded && s.lineBreak = some '\n' && !s.blankStart && !g.isBlank then
      if s.emptyLines.isEmpty then ' ' :: s.acc else s.emptyLines ++ s.acc
    else s.emptyLines ++ (s.lineBreak.toList ++ s.acc)
  { s with
    acc := g.char :: acc
    lineBreak := .none
    emptyLines := []
    inLine := true
    blankStart := g.isBlank }

/-- The text with the breaks at its end as the chomping wants them. -/
def finish (c : Chomping) (s : BlockState) : String :=
  let acc := if c = .strip then s.acc else s.lineBreak.toList ++ s.acc
  textOf (if c = .keep then s.emptyLines ++ acc else acc)

end BlockState

/-- Reads the lines of a block scalar inside a collection whose entries stand at a column, or
inside none. -/
def blockLines (folded : Bool) (chomping : Chomping) (least : Nat) (s : BlockState) :
    List Glyph → Except Fault (String × List Glyph)
  | [] => .ok (s.finish chomping, [])
  | g :: rest =>
    if s.inLine then
      if g.isEnd then .ok (s.finish chomping, g :: rest)
      else if g.isBreak then
        blockLines folded chomping least
          { s with inLine := false, lineBreak := some g.char, widest := 0 } rest
      else blockLines folded chomping least { s with acc := g.char :: s.acc } rest
    else
      let s := { s with widest := max s.widest g.column }
      let isInside := s.indent = 0 || g.column < s.indent
      if isInside && g.char = ' ' then blockLines folded chomping least s rest
      else if isInside && g.char = '\t' then .error .strayTab
      else if g.isBreak then
        blockLines folded chomping least { s with emptyLines := g.char :: s.emptyLines } rest
      else
        let s := if s.indent = 0 then { s with indent := max s.widest least } else s
        if g.column = s.indent && !g.isEnd then
          blockLines folded chomping least (s.beginLine folded g) rest
        else .ok (s.finish chomping, g :: rest)

/-- Reads a block scalar, its indicator read already, where the lines of its surroundings stand at
a column, or at none. -/
def block (folded : Bool) (surroundings : Option Nat) (gs : List Glyph) :
    Except Fault (String × List Glyph) := do
  let (header, gs) ← blockHeader gs
  let indent := (header.increment.map fun n => surroundings.getD 0 + n).getD 0
  blockLines folded header.chomping (max 1 (surroundings.elim 0 (· + 1))) { indent } gs

end Scalar

end ControlPlane.Yaml
