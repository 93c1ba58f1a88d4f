/-!
Moments as reports write them, in universal time. A moment is counted in nanoseconds from the start
of the year 1970; days fall into eras of four hundred years, which all have as many days.
-/

namespace ControlPlane

/-- A day of the calendar. -/
structure CalendarDay where
  year : Int
  month : Nat
  day : Nat
  deriving DecidableEq, Inhabited

/-- The day that comes a number of days after the first of January 1970. Years are taken to begin
in March, so that the day of a leap year is the last of its year. -/
def CalendarDay.ofDays (days : Int) : CalendarDay :=
  let shifted := days + 719468
  let era := Int.fdiv shifted 146097
  let dayOfEra := (Int.fmod shifted 146097).toNat
  let yearOfEra := (dayOfEra - dayOfEra / 1460 + dayOfEra / 36524 - dayOfEra / 146096) / 365
  let dayOfYear := dayOfEra - (365 * yearOfEra + yearOfEra / 4 - yearOfEra / 100)
  let month := (5 * dayOfYear + 2) / 153
  let isNextYear := 10 ≤ month
  ⟨era * 400 + yearOfEra + (if isNextYear then 1 else 0),
    if isNextYear then month - 9 else month + 3, dayOfYear - (153 * month + 2) / 5 + 1⟩

/-- A time as reports write it. -/
structure Timestamp where
  /-- With its date, its fraction and its zone. -/
  full : String
  /-- To the second. -/
  short : String
  deriving DecidableEq, Inhabited

namespace Timestamp

/-- A number with zeros before it, up to a number of digits. -/
def padded (digits n : Nat) : String :=
  let text := toString n
  String.ofList (List.replicate (digits - text.length) '0') ++ text

/-- The fraction of a second, in groups of three digits as far as they are needed. -/
def fraction (nanoseconds : Nat) : String :=
  if nanoseconds = 0 then ""
  else if nanoseconds % 1000000 = 0 then "." ++ padded 3 (nanoseconds / 1000000)
  else if nanoseconds % 1000 = 0 then "." ++ padded 6 (nanoseconds / 1000)
  else "." ++ padded 9 nanoseconds

/-- The time of a moment. -/
def ofNanoseconds (moment : Int) : Timestamp :=
  let seconds := Int.fdiv moment 1000000000
  let day := CalendarDay.ofDays (Int.fdiv seconds 86400)
  let rest := (Int.fmod seconds 86400).toNat
  let date := padded 4 day.year.toNat ++ "-" ++ padded 2 day.month ++ "-" ++ padded 2 day.day
  let clock := padded 2 (rest / 3600) ++ ":" ++ padded 2 (rest / 60 % 60) ++ ":" ++
    padded 2 (rest % 60)
  ⟨date ++ "T" ++ clock ++ fraction (Int.fmod moment 1000000000).toNat ++ "+00:00",
    date ++ " " ++ clock⟩

end Timestamp

end ControlPlane
