import ControlPlane.Decimal.Numeral
import ControlPlane.Yaml.Glyph

/-!
Tags, anchors and directives as they are written.
-/

namespace ControlPlane.Yaml

/-- A tag as it is written: a suffix, and the handle that stands for what comes before it. A tag
that is written in full has no handle. -/
structure TagText where
  handle : String
  suffix : String
  deriving DecidableEq, Inhabited

/-- A directive before a document. -/
inductive Directive where
  | version (major minor : Nat)
  /-- What a handle stands for. -/
  | tag (handle stem : String)
  deriving DecidableEq, Inhabited

/-- The text of glyphs. -/
def textOfGlyphs (gs : List Glyph) : String := String.ofList (gs.map Glyph.char)

/-! ### Tags -/

namespace TagText

/-- Whether a character can stand in a tag; some only in one that is written in full. -/
def isTagChar (full : Bool) (g : Glyph) : Bool :=
  g.isWordChar || ";/?:@&=+$.%!~*'()".toList.contains g.char ||
    (full && ",[]".toList.contains g.char)

/-- How many bytes a character has whose first byte is given. -/
def byteLength? (byte : Nat) : Option Nat :=
  if byte < 0x80 then some 1
  else if byte < 0xC0 then none
  else if byte < 0xE0 then some 2
  else if byte < 0xF0 then some 3
  else if byte < 0xF8 then some 4
  else none

/-- The bits that a byte gives to its character. -/
def payload (length byte : Nat) : Nat :=
  match length with
  | 1 => byte
  | 2 => byte % 0x20
  | 3 => byte % 0x10
  | _ => byte % 0x08

/-- Reads the characters of a tag. Bytes that are written as a percent sign and two digits make up
characters; the argument in the middle holds what is left to come of one. -/
def chars (full : Bool) (left value : Nat) (acc : List Char) :
    List Glyph → Except Fault (List Char × List Glyph)
  | [] => .ok (acc.reverse, [])
  | g :: rest =>
    if g.char = '%' then
      match rest with
      | h :: l :: more =>
        match Decimal.hexValue? h.char, Decimal.hexValue? l.char with
        | some h, some l =>
          let byte := 16 * h + l
          if left = 0 then
            match byteLength? byte with
            | none => .error .badTag
            | some 1 => chars full 0 0 (Char.ofNat byte :: acc) more
            | some n => chars full (n - 1) (payload n byte) acc more
          else if byte < 0x80 || 0xC0 ≤ byte then .error .badTag
          else
            let value := 64 * value + byte % 64
            if left = 1 then chars full 0 0 (Char.ofNat value :: acc) more
            else chars full (left - 1) value acc more
        | _, _ => .error .badTag
      | _ => .error .badTag
    else if left ≠ 0 then .error .badTag
    else if isTagChar full g then chars full 0 0 (g.char :: acc) rest
    else .ok (acc.reverse, g :: rest)

/-- Reads a handle: an exclamation mark, or a word between two. Gives the word, and whether the
second mark is there. -/
def readHandle (gs : List Glyph) : Option (List Glyph × Bool × List Glyph) :=
  match gs with
  | g :: rest =>
    if g.char = '!' then
      let word := rest.takeWhile Glyph.isWordChar
      let rest := rest.dropWhile Glyph.isWordChar
      if Glyph.startsWith '!' rest then some (word, true, rest.drop 1) else some (word, false, rest)
    else none
  | [] => none

/-- Reads a tag, which must end before spacing or, within a flow collection, before a comma. -/
def read (flow : Bool) (gs : List Glyph) : Except Fault (TagText × List Glyph) := do
  let (tag, rest) ← match gs with
    | _ :: b :: rest =>
      if b.char = '<' then
        let (suffix, rest) ← chars true 0 0 [] rest
        if suffix.isEmpty || !Glyph.startsWith '>' rest then throw .badTag
        pure (TagText.mk "" (String.ofList suffix), rest.drop 1)
      else short gs
    | _ => short gs
  if Glyph.startsSpacing rest || (flow && Glyph.startsWith ',' rest) then pure (tag, rest)
  else throw .badTag
where
  short (gs : List Glyph) : Except Fault (TagText × List Glyph) := do
    match readHandle gs with
    | none => throw .badTag
    | some (word, true, rest) =>
      let (suffix, rest) ← chars false 0 0 [] rest
      if suffix.isEmpty then throw .badTag
      pure (⟨"!" ++ textOfGlyphs word ++ "!", String.ofList suffix⟩, rest)
    | some (word, false, rest) =>
      let (suffix, rest) ← chars false 0 0 [] rest
      match textOfGlyphs word ++ String.ofList suffix with
      | "" => pure (⟨"", "!"⟩, rest)
      | suffix => pure (⟨"!", suffix⟩, rest)

end TagText

/-! ### Anchors -/

/-- Reads the name of an anchor or an alias, the indicator read already. -/
def readAnchor (gs : List Glyph) : Except Fault (String × List Glyph) :=
  let word := gs.takeWhile Glyph.isWordChar
  let rest := gs.dropWhile Glyph.isWordChar
  let ends := Glyph.startsSpacing rest ||
    rest.head?.any fun g => "?:,]\x7d%@".toList.contains g.char || g.char == '\x60'
  if word.isEmpty || !ends then .error .badAnchor else .ok (textOfGlyphs word, rest)

/-! ### Directives -/

namespace Directive

/-- Reads a number of at most nine digits. -/
def number (gs : List Glyph) : Except Fault (Nat × List Glyph) :=
  let digits := gs.takeWhile fun g => g.char.isDigit
  if digits.isEmpty || 9 < digits.length then .error .badDirective
  else .ok (Decimal.digitsToNat (digits.map Glyph.char), gs.drop digits.length)

/-- Reads a directive, the percent sign read already. -/
def read (gs : List Glyph) : Except Fault (Directive × List Glyph) := do
  let name := gs.takeWhile Glyph.isWordChar
  let rest := gs.dropWhile Glyph.isWordChar
  if !Glyph.startsSpacing rest then throw .badDirective
  let rest := rest.dropWhile Glyph.isBlank
  let (directive, rest) ← match textOfGlyphs name with
    | "YAML" => do
      let (major, rest) ← number rest
      if !Glyph.startsWith '.' rest then throw .badDirective
      let (minor, rest) ← number (rest.drop 1)
      pure (Directive.version major minor, rest)
    | "TAG" => do
      let (handle, rest) ← match TagText.readHandle rest with
        | some (word, true, rest) => pure ("!" ++ textOfGlyphs word ++ "!", rest)
        | some ([], false, rest) => pure ("!", rest)
        | _ => throw .badDirective
      if !rest.head?.any Glyph.isBlank then throw .badDirective
      let (stem, rest) ← TagText.chars true 0 0 [] (rest.dropWhile Glyph.isBlank)
      if stem.isEmpty || !Glyph.startsSpacing rest then throw .badDirective
      pure (Directive.tag handle (String.ofList stem), rest)
    | _ => throw .badDirective
  pure (directive, ← Glyph.dropLine .badDirective rest)

end Directive

end ControlPlane.Yaml
