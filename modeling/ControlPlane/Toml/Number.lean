import ControlPlane.Toml.Text
import ControlPlane.Toml.Value

/-!
TOML numbers, dates and times.
-/

namespace ControlPlane.Toml

/-! ### Numbers -/

/-- Reads digits with single underscores between them; the digits without them. -/
def readDigits (isDigit : Char → Bool) : List Char → Option (List Char × List Char)
  | [] => none
  | c :: rest => if isDigit c then some (go c rest) else none
where
  go (last : Char) : List Char → List Char × List Char
    | '_' :: c :: rest =>
      if isDigit c then
        let (ds, rest) := go c rest
        (last :: ds, rest)
      else ([last], '_' :: c :: rest)
    | c :: rest =>
      if isDigit c then
        let (ds, rest) := go c rest
        (last :: ds, rest)
      else ([last], c :: rest)
    | [] => ([last], [])

/-- Reads the sign of a number, and whether it is a minus. -/
def readSign : List Char → Bool × List Char
  | '-' :: rest => (true, rest)
  | '+' :: rest => (false, rest)
  | rest => (false, rest)

/-- Reads the digits of a whole number to base ten: none comes after a leading zero. -/
def readWhole (cs : List Char) : Option (List Char × List Char) :=
  match cs with
  | '0' :: rest => some (['0'], rest)
  | cs => readDigits Char.isDigit cs

/-- A whole number, if it fits in 64 bits with a sign. -/
def int? (i : Int) : Option Value := if Decimal.isSigned64 i then some (.int i) else none

/-- Reads a natural number to a base after its mark. -/
def readBased (base : Nat) (cs : List Char) : Option (Value × List Char) := do
  let isDigit (c : Char) : Bool := match Decimal.hexValue? c with
    | some d => d < base
    | none => false
  let (ds, rest) ← readDigits isDigit cs
  let n : Nat := ds.foldl (fun n d => base * n + (Decimal.hexValue? d).getD 0) 0
  let v ← int? n
  pure (v, rest)

/-- Reads an exponent, if there is one. -/
def readExponent : List Char → Option (Option Int × List Char)
  | 'e' :: rest | 'E' :: rest => do
    let (negative, rest) := readSign rest
    let (ds, rest) ← readDigits Char.isDigit rest
    let n : Int := Decimal.digitsToNat ds
    pure (some (if negative then -n else n), rest)
  | rest => some (none, rest)

/-- Reads a number to base ten, whole or not. -/
def readDecimal (cs : List Char) : Option (Value × List Char) := do
  let (negative, rest) := readSign cs
  let (whole, rest) ← readWhole rest
  let (places, rest) ← match rest with
    | '.' :: rest => (readDigits Char.isDigit rest).map fun r => (some r.1, r.2)
    | rest => some (none, rest)
  let (exponent, rest) ← readExponent rest
  match places, exponent with
  | none, none =>
    let n : Int := Decimal.digitsToNat whole
    let v ← int? (if negative then -n else n)
    pure (v, rest)
  | places, exponent =>
    let places := places.getD []
    let x := Binary64.ofDecimal negative (Decimal.digitsToNat (whole ++ places))
      (exponent.getD 0 - places.length)
    if x = .infinity false then none else pure (.float x, rest)

/-- Reads a number. -/
def readNumber (cs : List Char) : Option (Value × List Char) :=
  match cs with
  | '0' :: 'x' :: rest => readBased 16 rest
  | '0' :: 'o' :: rest => readBased 8 rest
  | '0' :: 'b' :: rest => readBased 2 rest
  | cs =>
    match readSign cs with
    | (negative, 'i' :: 'n' :: 'f' :: rest) => some (.float (.infinity negative), rest)
    | (_, 'n' :: 'a' :: 'n' :: rest) => some (.float .nan, rest)
    | _ => readDecimal cs

/-! ### Dates and times -/

/-- Reads a number of exactly some digits that is within bounds. -/
def readField (length low high : Nat) (cs : List Char) : Option (Nat × List Char) :=
  let ds := cs.take length
  if ds.length = length && ds.all Char.isDigit then
    let n := Decimal.digitsToNat ds
    if low ≤ n && n ≤ high then some (n, cs.drop length) else none
  else none

/-- Reads one character. -/
def readChar (c : Char) : List Char → Option (List Char)
  | d :: rest => if c = d then some rest else none
  | [] => none

/-- The number of days of a month. -/
def daysOf (year month : Nat) : Nat :=
  if month = 2 then
    if year % 4 = 0 && (year % 100 != 0 || year % 400 = 0) then 29 else 28
  else if month ∈ [4, 6, 9, 11] then 30
  else 31

/-- A number with zeros in front up to a length. -/
def padded (length n : Nat) : String :=
  let digits := toString n
  String.ofList (List.replicate (length - digits.length) '0') ++ digits

/-- Reads a date; its text. -/
def readDate (cs : List Char) : Option (String × List Char) := do
  let (year, rest) ← readField 4 0 9999 cs
  let (month, rest) ← readField 2 1 12 (← readChar '-' rest)
  let (day, rest) ← readField 2 1 (daysOf year month) (← readChar '-' rest)
  pure (padded 4 year ++ "-" ++ padded 2 month ++ "-" ++ padded 2 day, rest)

/-- Reads the fraction of a second; nine digits of it count, and zeros at its end do not show. -/
def readFraction : List Char → Option (String × List Char)
  | '.' :: rest =>
    let ds := rest.takeWhile Char.isDigit
    if ds.isEmpty then none
    else
      let shown := ((ds.take 9).reverse.dropWhile (· == '0')).reverse
      some (if shown.isEmpty then "" else "." ++ String.ofList shown, rest.drop ds.length)
  | rest => some ("", rest)

/-- Reads a time of day; its text. -/
def readTime (cs : List Char) : Option (String × List Char) := do
  let (hour, rest) ← readField 2 0 23 cs
  let (minute, rest) ← readField 2 0 59 (← readChar ':' rest)
  let (second, rest) ← readField 2 0 60 (← readChar ':' rest)
  let (fraction, rest) ← readFraction rest
  pure (padded 2 hour ++ ":" ++ padded 2 minute ++ ":" ++ padded 2 second ++ fraction, rest)

/-- Reads the offset of a time from the prime meridian's, if there is one. -/
def readOffset : List Char → Option (String × List Char)
  | 'Z' :: rest | 'z' :: rest => some ("Z", rest)
  | c :: rest =>
    if c = '+' ∨ c = '-' then do
      let (hour, rest) ← readField 2 0 23 rest
      let (minute, rest) ← readField 2 0 59 (← readChar ':' rest)
      let sign := if c = '-' && (hour != 0 || minute != 0) then "-" else "+"
      pure (sign ++ padded 2 hour ++ ":" ++ padded 2 minute, rest)
    else some ("", c :: rest)
  | [] => some ("", [])

/-- Reads a time of day after a date, if there is one. -/
def readTimeAfter : List Char → Option (String × List Char)
  | c :: rest =>
    if c = 'T' ∨ c = 't' ∨ c = ' ' then
      match readTime rest with
      | some (time, rest) => (readOffset rest).map fun o => ("T" ++ time ++ o.1, o.2)
      | none => some ("", c :: rest)
    else some ("", c :: rest)
  | [] => some ("", [])

/-- Reads a date, a time or both. -/
def readMoment (cs : List Char) : Option (Value × List Char) :=
  match readDate cs with
  | some (date, rest) => (readTimeAfter rest).map fun t => (.moment (date ++ t.1), t.2)
  | none => (readTime cs).map fun t => (.moment t.1, t.2)

end ControlPlane.Toml
