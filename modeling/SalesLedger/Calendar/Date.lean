/-!
# Dates

The proleptic Gregorian calendar from -262143-01-01 to 262142-12-31. A date carries the proof that
it is in the calendar. Months are also counted in one row, twelve to a year, so that moving by
months is addition.

Main statements: `monthIndex_firstOf`, the first day of a counted month lies in that month, and
`firstOf?_eq_none_iff`, which counted months the calendar lacks.
-/

namespace SalesLedger.Calendar

/-- A leap year of the Gregorian rule. -/
def isLeap (year : Int) : Bool :=
  year % 4 == 0 && (year % 100 != 0 || year % 400 == 0)

/-- How many days a month has. -/
def daysInMonth (year : Int) (month : Nat) : Nat :=
  if month = 2 then if isLeap year then 29 else 28
  else if month = 4 ∨ month = 6 ∨ month = 9 ∨ month = 11 then 30
  else 31

/-- The first and the last year of the calendar. -/
def firstYear : Int := -262143
def lastYear : Int := 262142

/-- Whether year, month and day name a date of the calendar. -/
def InCalendar (year : Int) (month day : Nat) : Prop :=
  firstYear ≤ year ∧ year ≤ lastYear ∧ 1 ≤ month ∧ month ≤ 12 ∧ 1 ≤ day ∧
    day ≤ daysInMonth year month

instance (year : Int) (month day : Nat) : Decidable (InCalendar year month day) :=
  inferInstanceAs (Decidable (_ ∧ _))

/-- A date of the calendar. -/
structure Date where
  year : Int
  month : Nat
  day : Nat
  inCalendar : InCalendar year month day
  deriving DecidableEq

namespace Date

def of? (year : Int) (month day : Nat) : Option Date :=
  if h : InCalendar year month day then some ⟨year, month, day, h⟩ else none

/-- The place of a date's month in the row of all months. -/
def monthIndex (d : Date) : Int :=
  d.year * 12 + ((d.month : Int) - 1)

/-- A number that grows with the date. -/
def ordinal (d : Date) : Int :=
  d.monthIndex * 31 + d.day

instance : LE Date := ⟨fun a b => a.ordinal ≤ b.ordinal⟩

instance : LT Date := ⟨fun a b => a.ordinal < b.ordinal⟩

instance (a b : Date) : Decidable (a ≤ b) := inferInstanceAs (Decidable (a.ordinal ≤ b.ordinal))

instance (a b : Date) : Decidable (a < b) := inferInstanceAs (Decidable (a.ordinal < b.ordinal))

/-- The first day of a counted month. -/
def firstOf? (index : Int) : Option Date :=
  of? (index / 12) ((index % 12).toNat + 1) 1

/-- The day before. -/
def pred? (d : Date) : Option Date :=
  if 1 < d.day then of? d.year d.month (d.day - 1)
  else if 1 < d.month then of? d.year (d.month - 1) (daysInMonth d.year (d.month - 1))
  else of? (d.year - 1) 12 31

/-- The last day of a counted month, known by the first day of the month after it. -/
def lastOf? (index : Int) : Option Date :=
  (firstOf? (index + 1)).bind pred?

/-- The quarter, one to four, of a month, one to twelve. -/
def quarterOf (month : Nat) : Nat :=
  (month - 1) / 3 + 1

/-- The place of the first month of a date's quarter. -/
def quarterIndex (d : Date) : Int :=
  d.year * 12 + ((quarterOf d.month : Int) - 1) * 3

/-- The last day of a month given by year and number. -/
def lastOfMonth? (year : Int) (month : Nat) : Option Date :=
  (of? year month 1).bind fun first => lastOf? first.monthIndex

/-! ## Laws -/

theorem of?_eq_some_iff {y : Int} {m n : Nat} {d : Date} :
    of? y m n = some d ↔ d.year = y ∧ d.month = m ∧ d.day = n := by
  constructor
  · intro h
    unfold of? at h
    split at h
    · cases h
      exact ⟨rfl, rfl, rfl⟩
    · cases h
  · rintro ⟨rfl, rfl, rfl⟩
    simp [of?, d.inCalendar]

theorem of?_eq_none_iff {y : Int} {m n : Nat} : of? y m n = none ↔ ¬ InCalendar y m n := by
  simp [of?]

theorem one_le_daysInMonth (y : Int) (m : Nat) : 1 ≤ daysInMonth y m := by
  unfold daysInMonth
  split
  · split <;> omega
  · split <;> omega

theorem daysInMonth_le (y : Int) (m : Nat) : daysInMonth y m ≤ 31 := by
  unfold daysInMonth
  split
  · split <;> omega
  · split <;> omega

theorem firstOf?_eq_none_iff {i : Int} :
    firstOf? i = none ↔ i < firstYear * 12 ∨ lastYear * 12 + 12 ≤ i := by
  have hdays := one_le_daysInMonth (i / 12) ((i % 12).toNat + 1)
  unfold firstOf?
  rw [of?_eq_none_iff]
  unfold InCalendar firstYear lastYear
  omega

theorem monthIndex_firstOf {i : Int} {d : Date} (h : firstOf? i = some d) :
    d.monthIndex = i ∧ d.day = 1 := by
  obtain ⟨hy, hm, hd⟩ := of?_eq_some_iff.1 h
  refine ⟨?_, hd⟩
  unfold monthIndex
  rw [hy, hm]
  omega

end Date

end SalesLedger.Calendar
