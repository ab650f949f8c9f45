import SalesLedger.Calendar.Date

/-!
# Counting days

Dates by the number of days since the first of January 1970. Years are taken to begin in March, so
that the leap day is the last day of a year, and repeat after 400 years.

Main statement: `dayInCycle_lt`, a day's place in its 400 years is below their number of days.
-/

namespace SalesLedger.Calendar

/-- The days of 400 years. -/
def cycleDays : Int := 146097

/-- The days from the first of March of the year 0 to the first of January 1970. -/
def epochDays : Int := 719468

/-- A day's place in its 400 years. -/
def dayInCycle (days : Int) : Int :=
  (days + epochDays) % cycleDays

/-- The date that lies a number of days after the first of January 1970. -/
def Date.ofDayCount? (days : Int) : Option Date :=
  let day := dayInCycle days
  let year := (day - day / 1460 + day / 36524 - day / 146096) / 365
  let dayOfYear := day - (365 * year + year / 4 - year / 100)
  let march := (5 * dayOfYear + 2) / 153
  let month := if march < 10 then march + 3 else march - 9
  let past := if month ≤ 2 then 1 else 0
  of? ((days + epochDays) / cycleDays * 400 + year + past) month.toNat
    (dayOfYear - (153 * march + 2) / 5 + 1).toNat

/-! ## Laws -/

theorem dayInCycle_lt (days : Int) : 0 ≤ dayInCycle days ∧ dayInCycle days < cycleDays := by
  unfold dayInCycle cycleDays
  omega

example : Date.ofDayCount? 0 = Date.of? 1970 1 1 := by decide

example : Date.ofDayCount? (-1) = Date.of? 1969 12 31 := by decide

example : Date.ofDayCount? 11016 = Date.of? 2000 2 29 := by decide

example : Date.ofDayCount? 20139 = Date.of? 2025 2 20 := by decide

end SalesLedger.Calendar
