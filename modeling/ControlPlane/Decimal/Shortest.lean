import ControlPlane.Decimal.Binary64

/-!
The fewest decimal digits that read back as a given double-precision number. The reals that round
to the number form an interval; for one digit, two digits and so on the two multiples of the power
of ten around the number are tried, the nearer one first.
-/

namespace ControlPlane.Decimal

/-- A decimal: the digits as a natural number, scaled by a power of ten. -/
structure Scaled where
  digits : Nat
  exponent : Int
  deriving DecidableEq, Inhabited

private def compareScaled (num den : Nat) (d : Nat) (k : Int) : Ordering :=
  if 0 ≤ k then compare (d * Nat.pow 10 k.toNat * den) num
  else compare (d * den) (num * Nat.pow 10 (-k).toNat)

/-- Moves an exponent up while the power of ten is at most the quotient. -/
private def climb (num den : Nat) : Nat → Int → Int
  | 0, k => k
  | fuel + 1, k => if compareScaled num den 1 k == .gt then k else climb num den fuel (k + 1)

/-- The least exponent whose power of ten is above the quotient. -/
def pointOf (num den : Nat) : Int :=
  let bits : Int := (Nat.log2 num : Int) - Nat.log2 den
  climb num den 8 (bits * 30103 / 100000 - 2)

/-- The reals that round to a number: the ends belong to it when the significand is even. -/
structure Interval where
  low : Nat
  high : Nat
  den : Nat
  closed : Bool

/-- The interval of a finite nonzero number. Below a power of two the gap is half as wide. -/
def Interval.of (x : Binary64) : Interval :=
  let m := x.significand
  let narrow : Bool := x.fractionField == 0 && 1 < x.exponentField
  let low := 4 * m - (if narrow then 1 else 2)
  let high := 4 * m + 2
  let shift := x.scale - 2
  let closed := m % 2 == 0
  if 0 ≤ shift then ⟨low * Nat.pow 2 shift.toNat, high * Nat.pow 2 shift.toNat, 1, closed⟩
  else ⟨low, high, Nat.pow 2 (-shift).toNat, closed⟩

/-- Whether a decimal lies in the interval. -/
def Interval.holds (i : Interval) (d : Nat) (k : Int) : Bool :=
  match compareScaled i.low i.den d k, compareScaled i.high i.den d k with
  | .gt, .lt => true
  | .eq, _ => i.closed
  | _, .eq => i.closed
  | _, _ => false

/-- The multiple of a power of ten that is nearest to the quotient among those in the interval. -/
private def nearestOn (i : Interval) (num den : Nat) (k : Int) : Option Nat :=
  let (scaledNum, scaledDen) :=
    if 0 ≤ k then (num, den * Nat.pow 10 k.toNat) else (num * Nat.pow 10 (-k).toNat, den)
  let below := scaledNum / scaledDen
  let rest := scaledNum % scaledDen
  let first := if 2 * rest < scaledDen || (2 * rest == scaledDen && below % 2 == 0)
    then below else below + 1
  let second := if first == below then below + 1 else below
  if i.holds first k then some first else if i.holds second k then some second else none

private def search (i : Interval) (num den : Nat) (point : Int) : Nat → Nat → Scaled
  | 0, count => ⟨num / den, count⟩
  | fuel + 1, count =>
    let k := point - count
    match nearestOn i num den k with
    | some d => ⟨d, k⟩
    | none => search i num den point fuel (count + 1)

private def dropZeros : Nat → Nat → Int → Scaled
  | 0, d, k => ⟨d, k⟩
  | fuel + 1, d, k => if d % 10 == 0 && d != 0 then dropZeros fuel (d / 10) (k + 1) else ⟨d, k⟩

/-- The fewest digits that read back as the magnitude of a finite number, without zeros at the
end. Seventeen digits always suffice. -/
def shortest (x : Binary64) : Scaled :=
  if x.isZero then ⟨0, 0⟩
  else
    let (num, den) := x.quotient
    let found := search (Interval.of x) num den (pointOf num den) 17 1
    dropZeros 20 found.digits found.exponent

end ControlPlane.Decimal
