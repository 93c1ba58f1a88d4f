import ControlPlane.Yaml.Scalar
import ControlPlane.Yaml.Tag

/-!
Tokens: the indicators, scalars, tags and anchors of a text, with marks where block collections
begin and end. A mapping key is recognized only when its value indicator is met, so marks are also
put before tokens that were read earlier.
-/

namespace ControlPlane.Yaml

/-- A token. -/
inductive Token where
  | directive (directive : Directive)
  | documentStart
  | documentEnd
  | blockSequenceStart
  | blockMappingStart
  | blockEnd
  | flowSequenceStart
  | flowSequenceEnd
  | flowMappingStart
  | flowMappingEnd
  | blockEntry
  | flowEntry
  | key
  | value
  | alias (name : String)
  | anchor (name : String)
  | tag (tag : TagText)
  | scalar (scalar : Scalar)
  /-- The text ends. -/
  | finish
  /-- The text is faulty from here on. -/
  | fault (fault : Fault)
  deriving DecidableEq, Inhabited

/-! ### The state of the lexer -/

/-- A place where a mapping key may have begun. -/
structure KeyCandidate where
  /-- How many tokens stand before it. -/
  position : Nat
  /-- The first glyph of the key. -/
  glyph : Glyph
  /-- Whether nothing but a key can stand there. -/
  required : Bool

/-- What the lexer knows of the tokens read so far. -/
structure Lexer where
  /-- The tokens so far, in reverse, and how many they are. -/
  tokens : List Token := []
  count : Nat := 0
  /-- The columns of the open block collections, the innermost first. -/
  indents : List Nat := []
  /-- The candidate of the block context and of every open flow collection, the innermost first. -/
  candidates : List (Option KeyCandidate) := [none]
  /-- Whether a key can begin at the next token. -/
  keyAllowed : Bool := true

namespace Lexer

/-- Whether a flow collection is open. -/
def isFlow (l : Lexer) : Bool := 1 < l.candidates.length

/-- The column of the innermost block collection. -/
def indent? (l : Lexer) : Option Nat := l.indents.head?

/-- Adds a token. -/
def push (l : Lexer) (t : Token) : Lexer := { l with tokens := t :: l.tokens, count := l.count + 1 }

/-- Puts a token before those after a position. -/
def insertAt (l : Lexer) (position : Nat) (t : Token) : Lexer :=
  let later := l.count - position
  { l with
    tokens := l.tokens.take later ++ t :: l.tokens.drop later
    count := l.count + 1 }

/-- Gives up a candidate, which must not be required. -/
def giveUp : Option KeyCandidate → Except Fault (Option KeyCandidate)
  | some k => if k.required then .error .keyWithoutValue else .ok none
  | none => .ok none

/-- Gives up the candidates that are too far away: a key is no longer than a line or 1024
characters. -/
def dropStale (l : Lexer) (g : Glyph) : Except Fault Lexer := do
  let candidates ← l.candidates.mapM fun
    | some k =>
      if k.glyph.line < g.line || k.glyph.index + 1024 < g.index then giveUp (some k)
      else pure (some k)
    | none => pure none
  pure { l with candidates }

/-- Gives up the innermost candidate. -/
def dropCandidate (l : Lexer) : Except Fault Lexer :=
  match l.candidates with
  | k :: rest => do pure { l with candidates := (← giveUp k) :: rest }
  | [] => .ok l

/-- Notes that a key may begin at a glyph. -/
def noteCandidate (l : Lexer) (g : Glyph) : Except Fault Lexer :=
  if l.keyAllowed then do
    let l ← l.dropCandidate
    let required := !l.isFlow && l.indent? == some g.column
    pure { l with candidates := some ⟨l.count, g, required⟩ :: l.candidates.drop 1 }
  else .ok l

/-- Opens a block collection at a column, unless one is open there, before a position. -/
def openBlock (l : Lexer) (column position : Nat) (t : Token) : Lexer :=
  if l.isFlow || l.indent?.any (column ≤ ·) then l
  else { l.insertAt position t with indents := column :: l.indents }

/-- Closes the block collections, of a list of columns, that stand to the right of a column. -/
def closeBlocks (stays : Nat → Bool) : List Nat → Lexer → Lexer
  | [], l => { l with indents := [] }
  | i :: rest, l =>
    if stays i then { l with indents := i :: rest } else closeBlocks stays rest (l.push .blockEnd)

/-- Closes the block collections to the right of a column. -/
def closeTo (l : Lexer) (column : Nat) : Lexer :=
  if l.isFlow then l else closeBlocks (· ≤ column) l.indents l

/-- Closes all block collections. -/
def closeAll (l : Lexer) : Lexer :=
  if l.isFlow then l else closeBlocks (fun _ => false) l.indents l

/-! ### Single tokens -/

/-- Sets whether a key can begin at the next token. -/
def allowKey (l : Lexer) (b : Bool) : Lexer := { l with keyAllowed := b }

/-- What stands at the margin: closes everything that is open. -/
def atMargin (l : Lexer) : Except Fault Lexer := do
  pure ((← l.closeAll.dropCandidate).allowKey false)

/-- The start of a flow collection. -/
def openFlow (l : Lexer) (g : Glyph) (t : Token) : Except Fault Lexer := do
  let l ← l.noteCandidate g
  pure ({ l with candidates := none :: l.candidates, keyAllowed := true }.push t)

/-- The end of a flow collection. -/
def closeFlow (l : Lexer) (t : Token) : Except Fault Lexer := do
  let l ← l.dropCandidate
  let candidates := if l.isFlow then l.candidates.drop 1 else l.candidates
  pure ({ l with candidates, keyAllowed := false }.push t)

/-- A dash before an entry of a block sequence. -/
def entry (l : Lexer) (g : Glyph) : Except Fault Lexer := do
  if !l.isFlow && !l.keyAllowed then throw .misplacedIndicator
  let l ← (l.openBlock g.column l.count .blockSequenceStart).dropCandidate
  pure ((l.allowKey true).push .blockEntry)

/-- A question mark before a key. -/
def explicitKey (l : Lexer) (g : Glyph) : Except Fault Lexer := do
  if !l.isFlow && !l.keyAllowed then throw .misplacedIndicator
  let l ← (l.openBlock g.column l.count .blockMappingStart).dropCandidate
  pure ((l.allowKey !l.isFlow).push .key)

/-- A colon before a value; the candidate, if there is one, turns out to be a key. -/
def colon (l : Lexer) (g : Glyph) : Except Fault Lexer := do
  match l.candidates with
  | some k :: rest =>
    let l := (l.insertAt k.position .key).openBlock k.glyph.column k.position .blockMappingStart
    pure ({ l with candidates := none :: rest, keyAllowed := false }.push .value)
  | _ =>
    if !l.isFlow && !l.keyAllowed then throw .misplacedIndicator
    let l := l.openBlock g.column l.count .blockMappingStart
    pure ((l.allowKey !l.isFlow).push .value)

/-- Whether a plain scalar can begin at the head of a list. -/
def startsPlain (flow : Bool) : List Glyph → Bool
  | g :: rest =>
    !(g.isSpacing || "-?:,[]\x7b\x7d#&*!|>'\"%@".toList.contains g.char || g.char == '\x60') ||
      (g.char == '-' && !rest.head?.any Glyph.isBlank) ||
      (!flow && (g.char == '?' || g.char == ':') && !Glyph.startsSpacing rest)
  | [] => false

/-- The rest after blanks, comments and line breaks, and whether a line began meanwhile. Tabs are
passed over where no indentation can stand. -/
def skipSpacing (flow keyAllowed inComment : Bool) : List Glyph → Bool × List Glyph
  | [] => (keyAllowed, [])
  | g :: rest =>
    if g.isBreak then skipSpacing flow (keyAllowed || !flow) false rest
    else if g.isEnd then (keyAllowed, g :: rest)
    else if inComment || g.char = '#' then skipSpacing flow keyAllowed true rest
    else if g.char = ' ' || (g.char = '\t' && (flow || !keyAllowed)) then
      skipSpacing flow keyAllowed false rest
    else (keyAllowed, g :: rest)

/-- Reads the token at the head of a list; nothing is left after the last one. -/
def step (l : Lexer) : List Glyph → Except Fault (Lexer × Option (List Glyph))
  | [] => .ok (l.push .finish, none)
  | g :: rest => do
    let gs := g :: rest
    let l := (← l.dropStale g).closeTo g.column
    let flow := l.isFlow
    let spaced := Glyph.startsSpacing rest
    if g.isEnd then pure ((← l.atMargin).push .finish, none)
    else if g.column = 0 && g.char = '%' then
      let l ← l.atMargin
      let (d, rest) ← Directive.read rest
      pure (l.push (.directive d), some rest)
    else if Glyph.startsMarker '-' gs then
      pure ((← l.atMargin).push .documentStart, some (gs.drop 3))
    else if Glyph.startsMarker '.' gs then
      pure ((← l.atMargin).push .documentEnd, some (gs.drop 3))
    else if g.char = '[' then pure (← l.openFlow g .flowSequenceStart, some rest)
    else if g.char = '{' then pure (← l.openFlow g .flowMappingStart, some rest)
    else if g.char = ']' then pure (← l.closeFlow .flowSequenceEnd, some rest)
    else if g.char = '}' then pure (← l.closeFlow .flowMappingEnd, some rest)
    else if g.char = ',' then
      pure (((← l.dropCandidate).allowKey true).push .flowEntry, some rest)
    else if g.char = '-' && spaced then pure (← l.entry g, some rest)
    else if g.char = '?' && (flow || spaced) then pure (← l.explicitKey g, some rest)
    else if g.char = ':' && (flow || spaced) then pure (← l.colon g, some rest)
    else if g.char = '*' || g.char = '&' then
      let l := (← l.noteCandidate g).allowKey false
      let (name, rest) ← readAnchor rest
      pure (l.push (if g.char = '*' then .alias name else .anchor name), some rest)
    else if g.char = '!' then
      let l := (← l.noteCandidate g).allowKey false
      let (tag, rest) ← TagText.read flow gs
      pure (l.push (.tag tag), some rest)
    else if (g.char = '|' || g.char = '>') && !flow then
      let l := (← l.dropCandidate).allowKey true
      let (text, rest) ← Scalar.block (g.char == '>') l.indent? rest
      pure (l.push (.scalar ⟨text, if g.char = '>' then .folded else .literal⟩), some rest)
    else if g.char = '\'' then
      let l := (← l.noteCandidate g).allowKey false
      let (text, rest) ← Scalar.single .none [] rest
      pure (l.push (.scalar ⟨text, .single⟩), some rest)
    else if g.char = '"' then
      let l := (← l.noteCandidate g).allowKey false
      let (text, rest) ← Scalar.double .text .none [] rest
      pure (l.push (.scalar ⟨text, .double⟩), some rest)
    else if startsPlain flow gs then
      let l ← l.noteCandidate g
      let (text, broken, rest) ← Scalar.plain flow (l.indent?.elim 0 (· + 1)) .none [] gs
      pure ((l.allowKey broken).push (.scalar ⟨text, .plain⟩), some rest)
    else throw .strayCharacter

/-- Reads tokens, at most so many. -/
def run : Nat → Lexer → List Glyph → List Token
  | 0, l, _ => l.tokens.reverse
  | n + 1, l, gs =>
    let (keyAllowed, gs) := skipSpacing l.isFlow l.keyAllowed false gs
    match { l with keyAllowed }.step gs with
    | .error f => (l.push (.fault f)).tokens.reverse
    | .ok (l, none) => l.tokens.reverse
    | .ok (l, some rest) => run n l rest

end Lexer

/-- The tokens of a text; the last one is its end or the fault that was met. -/
def Token.ofText (text : String) : List Token :=
  match Glyph.ofText text with
  | .error f => [.fault f]
  | .ok gs => Lexer.run (gs.length + 1) {} gs

end ControlPlane.Yaml
