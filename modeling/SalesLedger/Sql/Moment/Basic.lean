import SalesLedger.Decimal.Binary64

/-!
# Moments

A moment is known by any of three: an instant, counted in milliseconds of Julian days, a day of the
calendar, and a time of day. What is missing is worked out from the rest when it is needed: without
a day it is the first of January 2000, without a time of day midnight. A moment that was given as a
number remembers it, as long as nobody has said what the number counts.

Main statements: `withInstant_of_some` and `withDay_of_some`, what is known is not worked out again.
-/

namespace SalesLedger.Sql

/-- Why there is no moment. -/
inductive MomentFault where
  /-- A value names none. -/
  | unreadable
  /-- It cannot be counted. What comes after may still say so in another way. -/
  | outOfRange
  /-- It is the present one, where nothing may depend on the clock. -/
  | unsteady
  deriving Repr, DecidableEq

namespace Moment

/-- A day of the calendar: year, month and day of the month. -/
abbrev Day := Int × Int × Int

/-- A time of day. -/
structure Clock where
  hour : Int
  minute : Int
  second : Float

end Moment

/-- A moment. -/
structure Moment where
  /-- Milliseconds since the beginning of Julian days. -/
  instant? : Option Int := none
  day? : Option Moment.Day := none
  clock? : Option Moment.Clock := none
  /-- How many minutes the day and the time are ahead of universal time. -/
  offset : Int := 0
  /-- The number that the moment was given as. -/
  number? : Option Float := none
  /-- Whether fractions of a second are shown. -/
  isFine : Bool := false

namespace Moment

/-- The whole part of a double. -/
def truncate (x : Float) : Int :=
  if x.isFinite then (Decimal.Binary64.units x).tdiv Decimal.Binary64.unitsOfOne else 0

/-! ## Julian days -/

def dayMillis : Int := 86400000

/-- The instant of a day's beginning, for years from -4713 to 9999. -/
def instantOf? (day : Day) : Option Int :=
  let (year, month, day) := day
  if year < -4713 ∨ 9999 < year then none
  else
    let (y, m) := if month ≤ 2 then (year - 1, month + 12) else (year, month)
    let a := y.tdiv 100
    let b := 2 - a + a.tdiv 4
    let x := (36525 * (y + 4716)).tdiv 100
    let z := (306001 * (m + 1)).tdiv 10000
    some ((2 * (x + z + day + b) - 3049) * (dayMillis / 2))

def dayOf (instant : Int) : Day :=
  let z := (instant + dayMillis / 2).tdiv dayMillis
  let a₀ := (4 * z - 7468865).tdiv 146097
  let a := z + 1 + a₀ - a₀.tdiv 4
  let b := a + 1524
  let c := (20 * b - 2442).tdiv 7305
  let d := (36525 * (c % 32768)).tdiv 100
  let e := ((b - d) * 10000).tdiv 306001
  let month := if e < 14 then e - 1 else e - 13
  (if 2 < month then c - 4716 else c - 4715, month, b - d - (306001 * e).tdiv 10000)

/-- The last instant that counts. -/
def lastInstant : Int := 464269060799999

def counts (instant : Int) : Bool :=
  0 ≤ instant && instant ≤ lastInstant

/-- The instant of the first of January 1970. -/
def epoch : Int := 210866760000000

/-- The day of a moment that names none. -/
def usualDay : Day := (2000, 1, 1)

/-- The milliseconds of a time of day. -/
def Clock.millis (c : Clock) : Int :=
  c.hour * 3600000 + c.minute * 60000 + truncate (c.second * 1000 + 0.5)

/-- The time of day of an instant. -/
def clockOf (instant : Int) : Clock :=
  let millis := (instant + dayMillis / 2).tmod dayMillis
  let minutes := millis.tdiv 60000
  ⟨minutes.tdiv 60, minutes.tmod 60, Float.ofInt (millis.tmod 60000) / 1000⟩

/-! ## Working out what is missing -/

/-- A moment whose instant is known. A number that nobody has explained is none. Once an offset is
counted in, day and time are those of universal time. -/
def withInstant (m : Moment) : Except MomentFault Moment :=
  match m.instant? with
  | some _ => .ok m
  | none =>
    match if m.number?.isSome then none else instantOf? (m.day?.getD usualDay) with
    | none => .error .outOfRange
    | some start =>
      match m.clock? with
      | none => .ok { m with instant? := some start }
      | some c =>
        let instant? := some (start + c.millis - m.offset * 60000)
        if m.offset = 0 then .ok { m with instant? }
        else .ok { m with instant?, day? := none, clock? := none, offset := 0 }

/-- A moment whose day is known. -/
def withDay (m : Moment) : Except MomentFault Moment :=
  match m.day?, m.instant? with
  | some _, _ => .ok m
  | none, none => .ok { m with day? := some usualDay }
  | none, some instant =>
    if counts instant then .ok { m with day? := some (dayOf instant) } else .error .outOfRange

/-- A moment whose time of day is known. -/
def withClock (m : Moment) : Except MomentFault Moment :=
  match m.clock? with
  | some _ => .ok m
  | none => do
    let m ← m.withInstant
    pure { m with clock? := some (clockOf (m.instant?.getD 0)), number? := none }

/-- A moment whose day and time of day are known. -/
def withParts (m : Moment) : Except MomentFault Moment := do
  (← m.withDay).withClock

/-- The moment of an instant alone. -/
def atInstant (m : Moment) (instant : Int) : Moment :=
  { m with instant? := some instant, day? := none, clock? := none, offset := 0 }

/-- The moment with its parts counted anew: they may be out of their range, as the 31st of a short
month is. -/
def recounted (m : Moment) : Except MomentFault Moment :=
  { m with instant? := none }.withInstant

/-! ## Laws -/

theorem withInstant_of_some {m : Moment} {t : Int} (h : m.instant? = some t) :
    m.withInstant = .ok m := by
  rw [withInstant, h]

theorem withDay_of_some {m : Moment} {d : Day} (h : m.day? = some d) : m.withDay = .ok m := by
  rw [withDay, h]

end Moment

end SalesLedger.Sql
