import ControlPlane.Decimal.Shortest

/-!
Layouts of decimal text: which numbers are written positionally, whether a whole number keeps a
fraction, and the words for what is not finite. A layout is a value, so a format that prints
numbers states its choice in one line.
-/

namespace ControlPlane.Decimal

/-- How a double-precision number is written. -/
structure Layout where
  /-- The places before the point beyond which an exponent is written; none: never. -/
  maxPoint : Option Int
  /-- The zeros after the point, less one, beyond which an exponent is written; none: never. -/
  minPoint : Option Int
  /-- Whether a whole number is written with a zero fraction. -/
  fraction : Bool
  nan : String
  infinity : String

/-- Up to sixteen places before the point and five zeros after it are written out, and a whole
number keeps its fraction. -/
def Layout.compact : Layout := ⟨some 16, some (-5), true, "NaN", "inf"⟩

/-- Every place is written out, and a whole number has no fraction. -/
def Layout.positional : Layout := ⟨none, none, false, "NaN", "inf"⟩

/-- Every place is written out, and a whole number keeps its fraction. -/
def Layout.pointed : Layout := ⟨none, none, true, "NaN", "inf"⟩

private def zeros (n : Nat) : String := String.ofList (List.replicate n '0')

/-- The magnitude of a decimal in a layout. -/
def Layout.magnitude (layout : Layout) (s : Scaled) : String :=
  if s.digits = 0 then if layout.fraction then "0.0" else "0"
  else
    let text := toString s.digits
    let length : Int := text.length
    let point := length + s.exponent
    let tooWide := match layout.maxPoint with
      | some most => decide (most < point)
      | none => false
    let tooSmall := match layout.minPoint with
      | some least => decide (point ≤ least)
      | none => false
    if tooWide || tooSmall then
      let mark := "e" ++ toString (point - 1)
      if length = 1 then text ++ mark
      else (text.take 1).toString ++ "." ++ (text.drop 1).toString ++ mark
    else if length ≤ point then
      text ++ zeros (point - length).toNat ++ (if layout.fraction then ".0" else "")
    else if 0 < point then
      (text.take point.toNat).toString ++ "." ++ (text.drop point.toNat).toString
    else "0." ++ zeros (-point).toNat ++ text

/-- A number in a layout: the sign of a zero is kept. -/
def Layout.render (layout : Layout) (x : Binary64) : String :=
  if x.isNaN then layout.nan
  else
    let sign := if x.isNegative then "-" else ""
    if x.isFinite then sign ++ layout.magnitude (shortest x) else sign ++ layout.infinity

end ControlPlane.Decimal
