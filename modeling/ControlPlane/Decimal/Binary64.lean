/-!
Double-precision numbers as their 64 bits, with exact rational arithmetic on what the bits mean.
A finite number is a natural number times a power of two, so reading a decimal and comparing with
one are questions about natural numbers.
-/

namespace ControlPlane

/-- A double-precision number, given by its bits. -/
structure Binary64 where
  bits : UInt64
  deriving DecidableEq, Inhabited

namespace Binary64

/-! ### The parts of a number -/

/-- Whether the sign bit is set. -/
def isNegative (x : Binary64) : Bool := x.bits.toNat / Nat.pow 2 63 == 1

/-- The eleven exponent bits. -/
def exponentField (x : Binary64) : Nat := x.bits.toNat / Nat.pow 2 52 % Nat.pow 2 11

/-- The fifty-two fraction bits. -/
def fractionField (x : Binary64) : Nat := x.bits.toNat % Nat.pow 2 52

def isFinite (x : Binary64) : Bool := x.exponentField != 2047

def isNaN (x : Binary64) : Bool := x.exponentField == 2047 && x.fractionField != 0

/-- Whether the number is one of the two zeros. -/
def isZero (x : Binary64) : Bool := x.exponentField == 0 && x.fractionField == 0

/-- The natural number that a finite number is a power of two away from. -/
def significand (x : Binary64) : Nat :=
  if x.exponentField = 0 then x.fractionField else Nat.pow 2 52 + x.fractionField

/-- The power of two by which the significand is scaled. -/
def scale (x : Binary64) : Int :=
  (if x.exponentField = 0 then 1 else x.exponentField : Nat) - (1075 : Int)

/-- The magnitude of a finite number as a quotient. -/
def quotient (x : Binary64) : Nat × Nat :=
  match x.scale with
  | .ofNat k => (x.significand * Nat.pow 2 k, 1)
  | .negSucc k => (x.significand, Nat.pow 2 (k + 1))

/-- Numbers are alike when they have one value: the two zeros are alike, and nothing is like a
number that is not a number. -/
def alike (x y : Binary64) : Bool :=
  !x.isNaN && !y.isNaN && (x.bits == y.bits || (x.isZero && y.isZero))

/-! ### Rounding to a number -/

/-- The quotient rounded to the nearest natural number, a half to the even one. -/
def roundHalfEven (num den : Nat) : Nat :=
  let whole := num / den
  let rest := num % den
  if 2 * rest < den then whole
  else if den < 2 * rest then whole + 1
  else whole + whole % 2

private def withSign (negative : Bool) (magnitude : Nat) : Binary64 :=
  ⟨UInt64.ofNat (magnitude + if negative then Nat.pow 2 63 else 0)⟩

/-- The infinity of a sign. -/
def infinity (negative : Bool) : Binary64 := withSign negative (2047 * Nat.pow 2 52)

/-- The number that is not a number. -/
def nan : Binary64 := withSign false (2047 * Nat.pow 2 52 + Nat.pow 2 51)

/-- The zero of a sign. -/
def zero (negative : Bool) : Binary64 := withSign negative 0

/-- The number nearest to a quotient, a half going to the even significand. Significands count in
units of a power of two that is at least the smallest one. -/
def ofQuotient (negative : Bool) (num den : Nat) : Binary64 :=
  if num = 0 ∨ den = 0 then zero negative
  else
    let guess : Int := (Nat.log2 num : Int) - Nat.log2 den
    let below : Bool :=
      if 0 ≤ guess then num < den * Nat.pow 2 guess.toNat
      else num * Nat.pow 2 (-guess).toNat < den
    let top : Int := if below then guess - 1 else guess
    let unit : Int := max (top - 52) (-1074)
    let rounded :=
      if 0 ≤ unit then roundHalfEven num (den * Nat.pow 2 unit.toNat)
      else roundHalfEven (num * Nat.pow 2 (-unit).toNat) den
    let magnitude := (unit + 1074).toNat * Nat.pow 2 52 + rounded
    if magnitude < 2047 * Nat.pow 2 52 then withSign negative magnitude else infinity negative

/-- The number nearest to a natural number times a power of ten. Powers beyond the range of the
format are cut short, since their outcome is known. -/
def ofDecimal (negative : Bool) (digits : Nat) (exponent : Int) : Binary64 :=
  if digits = 0 then zero negative
  else
    let size : Int := (Nat.log2 digits : Int) + 1
    if exponent > 400 then infinity negative
    else if exponent * 3 + size < -1200 then zero negative
    else if 0 ≤ exponent then ofQuotient negative (digits * Nat.pow 10 exponent.toNat) 1
    else ofQuotient negative digits (Nat.pow 10 (-exponent).toNat)

/-- The number nearest to an integer. -/
def ofInt (i : Int) : Binary64 := ofQuotient (i < 0) i.natAbs 1

/-! ### Whole numbers -/

/-- The nearest integer, a half going away from zero; none where there is no number. -/
def roundToInt? (x : Binary64) : Option Int :=
  if !x.isFinite then none
  else
    let (num, den) := x.quotient
    let magnitude : Int := ((2 * num + den) / (2 * den) : Nat)
    some (if x.isNegative then -magnitude else magnitude)

/-- The nearest integer kept within bounds: an infinity is taken to the bound of its sign, and
what is not a number to zero. -/
def roundWithin (x : Binary64) (low high : Int) : Int :=
  match x.roundToInt? with
  | some i => max low (min high i)
  | none => if x.isNaN then 0 else if x.isNegative then low else high

end Binary64

end ControlPlane
