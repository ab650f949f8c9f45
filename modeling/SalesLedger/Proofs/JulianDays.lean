import SalesLedger.Proofs.DateOrder
import SalesLedger.Sql.Moment.Basic

/-!
# Days and their instants

A database counts days by Julian days, with a year that begins in March, so that the leap day is its
last: `instantOf?` and `dayOf`. The days of the years 0 to 9999 all have instants, and the last days
of a month are found again from theirs (`isKnown_of_plain`). A first of March is not always: the
instant of the one of the year 300 is taken for the day before.

* `exists_parts`: a year in its 400, 100 and 4 years.
* `centuries_eq`: how many leap days were left out, told from a count of days.
* `dayOfDays_eq`, `dayOf_count`: a day is found again from the count of days.
-/

namespace SalesLedger.Sql.Moment

/-! ## Years from March on -/

/-- The days before a year, counted from March on, if every fourth were a leap year. -/
def yearStart (s : Int) : Int := (36525 * (s + 4716)).tdiv 100

/-- The days before a month of such a year. January and February are its 13th and 14th month. -/
def monthStart (m : Int) : Int := (306001 * (m + 1)).tdiv 10000

/-- How many leap days are too many then. -/
def correction (s : Int) : Int := 2 - s.tdiv 100 + (s.tdiv 100).tdiv 4

/-- The instant of a count of days. -/
def instantOfCount (n : Int) : Int := (2 * n - 3049) * (dayMillis / 2)

/-- A month as one of a year from March on. -/
def marchYear (year month : Int) : Int := if month ≤ 2 then year - 1 else year
def marchMonth (month : Int) : Int := if month ≤ 2 then month + 12 else month

/-- The days up to a day. -/
def countOf (s m day : Int) : Int := yearStart s + monthStart m + day + correction s

theorem instantOf?_eq {year : Int} (hyear : 0 ≤ year) (hyear' : year ≤ 9999) (month day : Int) :
    instantOf? (year, month, day) =
      some (instantOfCount (countOf (marchYear year month) (marchMonth month) day)) := by
  unfold instantOf? marchYear marchMonth
  dsimp only
  rw [if_neg (by omega)]
  split <;> rfl

/-- The parts of a year: its 400, 100 and 4 years, and what is left. -/
structure IsYear (s q p k j : Int) : Prop where
  eq : s = 400 * q + 100 * p + 4 * k + j
  low : 0 ≤ q ∧ 0 ≤ p ∧ 0 ≤ k ∧ 0 ≤ j
  high : q ≤ 24 ∧ p ≤ 3 ∧ k ≤ 24 ∧ j ≤ 3

theorem exists_parts {s : Int} (hs : 0 ≤ s) (hs' : s ≤ 9999) : ∃ q p k j, IsYear s q p k j :=
  ⟨s / 400, s / 100 % 4, s % 100 / 4, s % 4, by omega, by omega, by omega⟩

variable {s q p k j n : Int}

theorem yearStart_eq (h : IsYear s q p k j) :
    yearStart s = 146100 * q + 36525 * p + 1461 * k + 365 * j + 1722519 := by
  obtain ⟨rfl, hlow, hhigh⟩ := h
  unfold yearStart
  rw [Int.tdiv_eq_ediv_of_nonneg (by omega)]
  omega

theorem correction_eq (h : IsYear s q p k j) : correction s = 2 - 3 * q - p := by
  obtain ⟨rfl, hlow, hhigh⟩ := h
  unfold correction
  have hcenturies : (400 * q + 100 * p + 4 * k + j).tdiv 100 = 4 * q + p := by
    rw [Int.tdiv_eq_ediv_of_nonneg (by omega)]
    omega
  rw [hcenturies, Int.tdiv_eq_ediv_of_nonneg (by omega)]
  omega

/-! ## Counts of days -/

/-- The days of a year from March on, from the 29th of March on. It has 366, if it ends in a leap
day. -/
def IsLate (p k j n : Int) : Prop := 151 ≤ n ∧ (n ≤ 487 ∨ n = 488 ∧ j = 3 ∧ (k < 24 ∨ p = 3))

/-- **The leap days that were left out before a day.** Before the year 400 a negative count is
rounded up, but it comes to the same. -/
theorem centuries_eq (h : IsYear s q p k j) (hn : IsLate p k j n) {z a : Int}
    (hz : z = yearStart s + n + correction s - 1524) (ha : a = (4 * z - 7468865).tdiv 146097) :
    z + 1 + a - a.tdiv 4 = yearStart s + n - 1524 := by
  rw [correction_eq h] at hz
  have hyear := yearStart_eq h
  obtain ⟨-, hlow, hhigh⟩ := h
  unfold IsLate at hn
  by_cases hq : q = 0
  · have hround : a = p - 3 := by
      rw [ha, ← Int.neg_neg (4 * z - 7468865), Int.neg_tdiv,
        Int.tdiv_eq_ediv_of_nonneg (by omega)]
      omega
    have hnone : a.tdiv 4 = 0 := by
      rw [hround, ← Int.neg_neg (p - 3), Int.neg_tdiv, Int.tdiv_eq_ediv_of_nonneg (by omega)]
      omega
    omega
  · have hcount : a = 4 * q + p - 4 := by
      rw [ha, Int.tdiv_eq_ediv_of_nonneg (by omega)]
      omega
    have hquarter : a.tdiv 4 = q - 1 := by
      rw [hcount, Int.tdiv_eq_ediv_of_nonneg (by omega)]
      omega
    omega

variable {m day : Int}

/-- The instant of a count of days is that of a day's beginning, half a day before its noon. -/
theorem count_of_instant (n : Int) (hn : 1524 ≤ n) :
    (instantOfCount n + dayMillis / 2).tdiv dayMillis = n - 1524 := by
  unfold instantOfCount dayMillis
  rw [Int.tdiv_eq_ediv_of_nonneg (by omega)]
  omega

/-- A month is found again from the days before it and its own. -/
theorem month_of_days (hm : 3 ≤ m) (hm' : m ≤ 14) (hday : 1 ≤ day)
    (hday' : monthStart m + day ≤ monthStart (m + 1)) :
    ((monthStart m + day) * 10000).tdiv 306001 = m + 1 := by
  unfold monthStart at *
  rw [Int.tdiv_eq_ediv_of_nonneg (a := 306001 * (m + 1)) (by omega)] at *
  rw [Int.tdiv_eq_ediv_of_nonneg (a := 306001 * (m + 1 + 1)) (by omega)] at hday'
  rw [Int.tdiv_eq_ediv_of_nonneg (by omega)]
  -- no month begins with a whole number of these days
  have hbefore : (306001 * (m + 1) / 10000 + day) * 10000 < 306001 * (m + 2) := by
    by_contra hnot
    have hwhole : (306001 * (m + 1) / 10000 + day) * 10000 = 306001 * (m + 2) := by omega
    omega
  omega

/-- A year is found again from the days before it and its own. -/
theorem year_of_days (h : IsYear s q p k j) (hn : IsLate p k j n) :
    (20 * (yearStart s + n) - 2442).tdiv 7305 = s + 4716 := by
  rw [yearStart_eq h]
  obtain ⟨rfl, hlow, hhigh⟩ := h
  unfold IsLate at hn
  rw [Int.tdiv_eq_ediv_of_nonneg (by omega)]
  omega

/-- The day of a count of days from which no leap day was left out. -/
def dayOfDays (b : Int) : Day :=
  let c := (20 * b - 2442).tdiv 7305
  let d := (36525 * (c % 32768)).tdiv 100
  let e := ((b - d) * 10000).tdiv 306001
  let month := if e < 14 then e - 1 else e - 13
  (if 2 < month then c - 4716 else c - 4715, month, b - d - (306001 * e).tdiv 10000)

/-- **A day is found again from its year, its month and its own number.** -/
theorem dayOfDays_eq (h : IsYear s q p k j) (hm : 3 ≤ m) (hm' : m ≤ 14) (hday : 1 ≤ day)
    (hday' : monthStart m + day ≤ monthStart (m + 1)) (hn : IsLate p k j (monthStart m + day)) :
    dayOfDays (yearStart s + (monthStart m + day)) =
      (if m ≤ 12 then s else s + 1, if m ≤ 12 then m else m - 12, day) := by
  have hs : 0 ≤ s + 4716 ∧ s + 4716 < 32768 := by
    obtain ⟨rfl, hlow, hhigh⟩ := h
    omega
  have hstart : (36525 * ((s + 4716) % 32768)).tdiv 100 = yearStart s := by
    rw [Int.emod_eq_of_lt hs.1 hs.2]
    rfl
  have hrest : yearStart s + (monthStart m + day) - yearStart s = monthStart m + day := by omega
  have hthis : (306001 * (m + 1)).tdiv 10000 = monthStart m := rfl
  unfold dayOfDays
  dsimp only
  rw [year_of_days h hn, hstart, hrest, month_of_days hm hm' hday hday', hthis]
  simp only [Prod.mk.injEq]
  omega

/-- **A day is found again from the count of days.** -/
theorem dayOf_count (h : IsYear s q p k j) (hm : 3 ≤ m) (hm' : m ≤ 14) (hday : 1 ≤ day)
    (hday' : monthStart m + day ≤ monthStart (m + 1)) (hn : IsLate p k j (monthStart m + day)) :
    dayOf (instantOfCount (countOf s m day)) =
      (if m ≤ 12 then s else s + 1, if m ≤ 12 then m else m - 12, day) := by
  have hcount : 1524 ≤ countOf s m day := by
    have hyearStart := yearStart_eq h
    have hcorrection := correction_eq h
    obtain ⟨-, hlow, hhigh⟩ := h
    unfold IsLate at hn
    unfold countOf
    omega
  have hnoon : (instantOfCount (countOf s m day) + dayMillis / 2).tdiv dayMillis =
      yearStart s + (monthStart m + day) + correction s - 1524 := by
    rw [count_of_instant _ hcount, countOf]
    omega
  have hcenturies := centuries_eq h hn rfl rfl
  calc dayOf (instantOfCount (countOf s m day))
      = dayOfDays (yearStart s + (monthStart m + day) - 1524 + 1524) := by
        unfold dayOf dayOfDays
        dsimp only
        rw [hnoon, hcenturies]
    _ = dayOfDays (yearStart s + (monthStart m + day)) := by rw [Int.sub_add_cancel]
    _ = _ := dayOfDays_eq h hm hm' hday hday' hn

/-! ## Dates -/

/-- A day has an instant, and where its month ends it is found again from it. -/
def IsKnown (year : Int) (month day : Nat) : Prop :=
  ∃ start, instantOf? (year, month, day) = some start ∧ counts start = true ∧
    (28 < day → dayOf start = (year, (month : Int), (day : Int)))

/-- The first two months of the year 0 belong to a year before it. -/
theorem isKnown_of_zero {month day : Nat} (hmonth : 1 ≤ month) (hmonth' : month ≤ 2)
    (hday : 1 ≤ day) (hday' : day ≤ Calendar.daysInMonth 0 month) : IsKnown 0 month day := by
  have hall : ∀ month ∈ List.range' 1 2, ∀ day ∈ List.range' 1 (Calendar.daysInMonth 0 month),
      (instantOf? (0, (month : Int), (day : Int))).any (fun start => counts start &&
        (day ≤ 28 || dayOf start = (0, (month : Int), (day : Int)))) = true := by decide +kernel
  have hthis := hall month (List.mem_range'_1.2 ⟨hmonth, by omega⟩) day
    (List.mem_range'_1.2 ⟨hday, by omega⟩)
  obtain ⟨start, hstart, hknown⟩ := (Option.any_eq_true _ _).1 hthis
  rw [Bool.and_eq_true, Bool.or_eq_true, decide_eq_true_eq, decide_eq_true_eq] at hknown
  exact ⟨start, hstart, hknown.1, fun hlate => hknown.2.resolve_left (Nat.not_le.2 hlate)⟩

theorem daysInMonth_le_zero (year : Int) (month : Nat) :
    Calendar.daysInMonth year month ≤ Calendar.daysInMonth 0 month := by
  have hleap : Calendar.isLeap 0 = true := by decide
  unfold Calendar.daysInMonth
  rw [hleap]
  split
  · split <;> decide
  · exact Nat.le_refl _

/-- The days before a month and its own, counted from March on. -/
theorem monthStart_spec : ∀ month ∈ List.range' 1 12,
    122 ≤ monthStart (marchMonth month) ∧
      monthStart (marchMonth month) + Calendar.daysInMonth 0 month ≤
        monthStart (marchMonth month + 1) ∧
      (month = 2 ∨ monthStart (marchMonth month) + Calendar.daysInMonth 0 month ≤ 459) ∧
      monthStart (marchMonth month) ≤ if month ≤ 2 then 459 else 397 := by
  decide +kernel

/-- Days up to the end of the year 9999 count. -/
theorem counts_of_parts (h : IsYear s q p k j) (hm : 122 ≤ monthStart m) (hday : 1 ≤ day)
    (hday' : day ≤ 31) (hend : monthStart m ≤ 397 ∨ s ≤ 9998 ∧ monthStart m ≤ 459) :
    counts (instantOfCount (countOf s m day)) = true := by
  have hyear := yearStart_eq h
  have hcorrection := correction_eq h
  obtain ⟨rfl, hlow, hhigh⟩ := h
  unfold counts instantOfCount countOf dayMillis lastInstant
  rw [Bool.and_eq_true, decide_eq_true_eq, decide_eq_true_eq]
  omega

variable {d : Calendar.Date}

/-- Months from March on, and back. -/
theorem march_spec (d : Calendar.Date) : 3 ≤ marchMonth d.month ∧ marchMonth d.month ≤ 14 ∧
    (if marchMonth d.month ≤ 12 then marchYear d.year d.month else marchYear d.year d.month + 1) =
      d.year ∧
    (if marchMonth d.month ≤ 12 then marchMonth d.month else marchMonth d.month - 12) = d.month := by
  obtain ⟨-, -, hmonth, hmonth', -, -⟩ := d.inCalendar
  unfold marchMonth marchYear
  split <;> split <;> omega

/-- The 29th of a February is the last day of a leap year. -/
theorem isLate_of_end (h : IsYear (marchYear d.year d.month) q p k j) (hlate : 28 < d.day) :
    IsLate p k j (monthStart (marchMonth d.month) + d.day) := by
  obtain ⟨-, -, hmonth, hmonth', -, hday⟩ := d.inCalendar
  obtain ⟨hlow, -, hend, -⟩ := monthStart_spec d.month (List.mem_range'_1.2 ⟨hmonth, by omega⟩)
  have hlong := daysInMonth_le_zero d.year d.month
  refine ⟨by omega, ?_⟩
  rcases hend with hfebruary | hend
  · have hstart : monthStart (marchMonth d.month) = 459 := by
      rw [hfebruary]
      rfl
    have hleap : Calendar.isLeap d.year = true ∧ d.day = 29 := by
      unfold Calendar.daysInMonth at hday
      rw [hfebruary, if_pos rfl] at hday
      split at hday
      · rename_i hleap
        exact ⟨hleap, by omega⟩
      · omega
    obtain ⟨heq, hlow, hhigh⟩ := h
    have hyear : d.year = 400 * q + 100 * p + 4 * k + j + 1 := by
      have hmarch : marchYear d.year d.month = d.year - 1 := by
        rw [hfebruary]
        rfl
      omega
    simp only [Calendar.isLeap, Bool.and_eq_true, Bool.or_eq_true, beq_iff_eq, bne_iff_ne] at hleap
    omega
  · omega

/-- **The days of the years 0 to 9999 have instants**, from which the last days of a month are found
again. -/
theorem isKnown_of_plain (d : Calendar.Date) (h : d.HasPlainYear) :
    IsKnown d.year d.month d.day := by
  obtain ⟨-, -, hmonth, hmonth', hday, hday'⟩ := d.inCalendar
  obtain ⟨hyear, hyear'⟩ := h
  by_cases hearly : d.year = 0 ∧ d.month ≤ 2
  · rw [hearly.1] at hday' ⊢
    exact isKnown_of_zero hmonth hearly.2 hday hday'
  obtain ⟨hlow, hnext, -, hstart⟩ := monthStart_spec d.month (List.mem_range'_1.2 ⟨hmonth, by omega⟩)
  obtain ⟨hm, hm', hback, hback'⟩ := march_spec d
  have hlong := daysInMonth_le_zero d.year d.month
  have hdays := Calendar.Date.daysInMonth_le d.year d.month
  have hs : 0 ≤ marchYear d.year d.month ∧ marchYear d.year d.month ≤ 9999 := by
    unfold marchYear
    split <;> omega
  obtain ⟨q, p, k, j, hparts⟩ := exists_parts hs.1 hs.2
  refine ⟨_, instantOf?_eq hyear hyear' _ _, ?_, fun hlate => ?_⟩
  · refine counts_of_parts hparts hlow (by omega) (by omega) ?_
    unfold marchYear
    split at hstart <;> split <;> omega
  · rw [dayOf_count hparts hm hm' (by omega) (by omega) (isLate_of_end hparts hlate), hback, hback']

end SalesLedger.Sql.Moment
