/-!
Texts from bytes. Bytes that are no UTF-8 become replacement characters, one for each longest start
of a character that is not completed.
-/

namespace ControlPlane.Text

/-- The character that stands for bytes without a meaning. -/
def replacement : Char := '\uFFFD'

/-- Whether a byte goes on with a character. -/
def continues (b : UInt8) : Bool := 0x80 ≤ b && b ≤ 0xbf

/-- How many bytes follow the first one of a character, and the bounds of the second one. -/
def following? (b : UInt8) : Option (Nat × UInt8 × UInt8) :=
  if 0xc2 ≤ b && b ≤ 0xdf then some (1, 0x80, 0xbf)
  else if b == 0xe0 then some (2, 0xa0, 0xbf)
  else if b == 0xed then some (2, 0x80, 0x9f)
  else if 0xe1 ≤ b && b ≤ 0xef then some (2, 0x80, 0xbf)
  else if b == 0xf0 then some (3, 0x90, 0xbf)
  else if 0xf1 ≤ b && b ≤ 0xf3 then some (3, 0x80, 0xbf)
  else if b == 0xf4 then some (3, 0x80, 0x8f)
  else none

/-- The code point that a first byte and those after it make up. -/
def codePoint (first : UInt8) (rest : List UInt8) : Nat :=
  let top := match rest.length with
    | 1 => first.toNat % 32
    | 2 => first.toNat % 16
    | _ => first.toNat % 8
  rest.foldl (fun n b => 64 * n + b.toNat % 64) top

/-- How many bytes of a list go on with a character whose first byte was read. -/
def continued (count : Nat) (low high : UInt8) : List UInt8 → Nat
  | [] => 0
  | b :: rest =>
    if low ≤ b && b ≤ high then 1 + ((rest.take (count - 1)).takeWhile continues).length else 0

/-- The characters that bytes mean. -/
def charsOfBytes : Nat → List UInt8 → List Char
  | 0, _ => []
  | _, [] => []
  | fuel + 1, b :: rest =>
    if b < 0x80 then Char.ofNat b.toNat :: charsOfBytes fuel rest
    else
      match following? b with
      | none => replacement :: charsOfBytes fuel rest
      | some (count, low, high) =>
        let n := continued count low high rest
        let c := if n = count then Char.ofNat (codePoint b (rest.take n)) else replacement
        c :: charsOfBytes fuel (rest.drop n)

/-- The text that bytes mean. -/
def ofBytes (bytes : ByteArray) : String :=
  match String.fromUTF8? bytes with
  | some s => s
  | none => String.ofList (charsOfBytes bytes.size bytes.toList)

end ControlPlane.Text
