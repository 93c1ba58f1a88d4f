import ControlPlane.Decimal.Binary64

/-!
Numerals: digits, exponents, and the double-precision number that a text with a fraction or an
exponent means.
-/

namespace ControlPlane.Decimal

/-- The value of a hexadecimal digit. -/
def hexValue? (c : Char) : Option Nat :=
  if '0' ≤ c && c ≤ '9' then some (c.toNat - 48)
  else if 'a' ≤ c && c ≤ 'f' then some (c.toNat - 87)
  else if 'A' ≤ c && c ≤ 'F' then some (c.toNat - 55)
  else none

/-- The natural number of decimal digits. -/
def digitsToNat (ds : List Char) : Nat := ds.foldl (fun n d => 10 * n + (d.toNat - 48)) 0

/-- Whether an integer fits in 64 bits with a sign. -/
def isSigned64 (i : Int) : Bool := Int64.minValue.toInt ≤ i && i ≤ Int64.maxValue.toInt

/-- Reads the exponent of a number. -/
def readExponent : List Char → Option (Option Int × List Char)
  | 'e' :: cs | 'E' :: cs =>
    let (negative, digits) := match cs with
      | '-' :: r => (true, r)
      | '+' :: r => (false, r)
      | r => (false, r)
    match digits.takeWhile Char.isDigit with
    | [] => none
    | ds =>
      let n : Int := digitsToNat ds
      some (some (if negative then -n else n), digits.dropWhile Char.isDigit)
  | cs => some (none, cs)

/-- The number that a text means: a sign, digits on at least one side of a point, an exponent. A
number beyond double precision is infinite. -/
def ofNumeral? (cs : List Char) : Option Binary64 := do
  let (negative, cs) := match cs with
    | '-' :: rest => (true, rest)
    | '+' :: rest => (false, rest)
    | rest => (false, rest)
  let whole := cs.takeWhile Char.isDigit
  let rest := cs.drop whole.length
  let (places, rest) := match rest with
    | '.' :: rest => (rest.takeWhile Char.isDigit, rest.dropWhile Char.isDigit)
    | rest => ([], rest)
  if whole.isEmpty && places.isEmpty then none
  let (exponent, rest) ← readExponent rest
  if !rest.isEmpty then none
  pure (Binary64.ofDecimal negative (digitsToNat (whole ++ places))
    (exponent.getD 0 - places.length))

end ControlPlane.Decimal
