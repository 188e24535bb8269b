import Mathlib.Tactic

/-! # Instants and calendar months

Instants are microseconds from the Unix epoch in UTC, the resolution of a
timezone-aware datetime. The month label follows the proleptic Gregorian
calendar.
-/

namespace Calendar

/-- Microseconds since the Unix epoch, UTC. -/
abbrev Instant := Int

def seconds (count : Int) : Int := count * 1000000

def days (count : Int) : Int := seconds (count * 86400)

/-- Year and month of a day number, counted from the epoch. Years are taken to
start in March, so that the leap day is the last day of its year. -/
def civilMonth (day : Int) : Int × Int :=
  let shifted := day + 719468
  let era := shifted / 146097
  let dayOfEra := shifted - era * 146097
  let yearOfEra :=
    (dayOfEra - dayOfEra / 1460 + dayOfEra / 36524 - dayOfEra / 146096) / 365
  let dayOfYear := dayOfEra - (365 * yearOfEra + yearOfEra / 4 - yearOfEra / 100)
  let marchMonth := (5 * dayOfYear + 2) / 153
  let month := if marchMonth < 10 then marchMonth + 3 else marchMonth - 9
  let year := yearOfEra + era * 400
  (if month ≤ 2 then year + 1 else year, month)

/-- The day of the month of a day number, from one. -/
def civilDay (day : Int) : Int :=
  let shifted := day + 719468
  let era := shifted / 146097
  let dayOfEra := shifted - era * 146097
  let yearOfEra :=
    (dayOfEra - dayOfEra / 1460 + dayOfEra / 36524 - dayOfEra / 146096) / 365
  let dayOfYear := dayOfEra - (365 * yearOfEra + yearOfEra / 4 - yearOfEra / 100)
  dayOfYear - (153 * ((5 * dayOfYear + 2) / 153) + 2) / 5 + 1

/-- Midnight of the first day of the month. -/
def monthStart (moment : Instant) : Instant :=
  let day := moment / days 1
  days (day - civilDay day + 1)

/-- A decimal numeral padded with zeros to a width. -/
def padded (width number : ℕ) : String :=
  String.ofList (List.leftpad width '0' (Nat.toDigits 10 number))

/-- The `YYYY-MM` label of an instant. -/
def monthLabel (moment : Instant) : String :=
  let (year, month) := civilMonth (moment / days 1)
  padded 4 year.toNat ++ "-" ++ padded 2 month.toNat

end Calendar
