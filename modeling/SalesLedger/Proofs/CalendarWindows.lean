import SalesLedger.Proofs.Windows

/-!
# Months and quarters of the calendar

Which days this month, the last month, this quarter and the last quarter are, seen from any day of
the calendar: `windows_of_calendar`. Each is the range of the days of one month or one quarter. It
is missing only where it would need a day that the calendar lacks: the last day of a month is known
by the first of the next, which the last December has not.

* `months?_eq_none_iff`: the rows of counted months that leave the calendar.
* `ends_of_months`: a range of months begins with a first day and ends with a last one.
* `spans_of_months`: what a period means that has a row of counted months.
-/

namespace SalesLedger.Calendar

/-! ## Days -/

namespace Date

/-- One day is the day before another: it is earlier, and there is none in between. -/
def IsDayBefore (a b : Date) : Prop := a < b ∧ ∀ d : Date, d ≤ a ∨ b ≤ d

/-- A day of another day's month. -/
def InMonthOf (today d : Date) : Prop := d.year = today.year ∧ d.month = today.month

/-- A day of the month before another day's. -/
def InMonthBefore (today d : Date) : Prop :=
  if today.month = 1 then d.year = today.year - 1 ∧ d.month = 12
  else d.year = today.year ∧ d.month = today.month - 1

/-- A day of a quarter, one to four: the quarter has three months. -/
def InQuarter (year : Int) (quarter : Nat) (d : Date) : Prop :=
  d.year = year ∧ 3 * quarter - 2 ≤ d.month ∧ d.month ≤ 3 * quarter

/-- A day of the quarter before another day's. -/
def InQuarterBefore (today d : Date) : Prop :=
  if quarterOf today.month = 1 then InQuarter (today.year - 1) 4 d
  else InQuarter today.year (quarterOf today.month - 1) d

/-- The last day of one month is the day before the first of the next. -/
theorem isDayBefore_of_months {last first : Date}
    (hlast : last.day = daysInMonth last.year last.month) (hfirst : first.day = 1)
    (hnext : last.monthIndex + 1 = first.monthIndex) : last.IsDayBefore first := by
  refine ⟨Int.not_le.1 fun hle => ?_, fun d => ?_⟩
  · have hindex := (first_le_iff hfirst).1 hle
    omega
  · rw [le_last_iff hlast, first_le_iff hfirst]
    omega

end Date

namespace Period

variable {period : Period} {today : Date} {first last : Int} {start stop : Date}

/-! ## Rows of months -/

/-- **A row of counted months is missing** where it begins before the calendar, or where no month
comes after it. -/
theorem months?_eq_none_iff (hle : first ≤ last) :
    months? first last = none ↔ first < firstYear * 12 ∨ lastYear * 12 + 11 ≤ last := by
  constructor
  · intro hnone
    by_contra hin
    obtain ⟨start, stop, hwindow, -⟩ := contains_of_months (show firstYear * 12 ≤ first by omega)
      (show first < lastYear * 12 + 12 by omega) (show firstYear * 12 ≤ last by omega)
      (show last < lastYear * 12 + 11 by omega)
    rw [hnone] at hwindow
    cases hwindow
  · rintro (hfirst | hlast)
    · have hnone : Date.firstOf? first = none := Date.firstOf?_eq_none_iff.2 (.inl hfirst)
      unfold months?
      rw [hnone]
      rfl
    · have hnone : Date.lastOf? last = none := by
        unfold Date.lastOf?
        rw [Date.firstOf?_eq_none_iff.2 (.inr (by omega))]
        rfl
      unfold months?
      rw [hnone]
      cases Date.firstOf? first <;> rfl

/-- **A range of months begins with the first day of one and ends with the last of another.** -/
theorem ends_of_months (hle : first ≤ last)
    (h : months? first last = some (.between start stop)) :
    (start.monthIndex = first ∧ start.day = 1) ∧
      stop.monthIndex = last ∧ stop.day = daysInMonth stop.year stop.month := by
  have hin : ¬ (first < firstYear * 12 ∨ lastYear * 12 + 11 ≤ last) := by
    rw [← months?_eq_none_iff hle, h]
    simp
  obtain ⟨start', hstart⟩ := Date.exists_firstOf (i := first) (by omega) (by omega)
  obtain ⟨stop', hstop, hindex, hday⟩ := Date.exists_lastOf (i := last) (by omega) (by omega)
  unfold months? at h
  rw [hstart, hstop] at h
  obtain ⟨rfl, rfl⟩ := Window.between.inj (Option.some.inj h)
  exact ⟨Date.monthIndex_firstOf hstart, hindex, hday⟩

/-! ## Windows -/

/-- What a period means on a day: a range of days, the first and the last of which belong to it and
which has no other days than those that do; or nothing, where it leaves the calendar. -/
structure Spans (period : Period) (today : Date) (Belongs : Date → Prop) (Leaves : Prop) : Prop
    where
  eq_none_iff : period.window? today = none ↔ Leaves
  range : ∀ w ∈ period.window? today, ∃ start stop, w = .between start stop ∧ Belongs start ∧
    Belongs stop ∧ ∀ d, start ≤ d ∧ d ≤ stop ↔ Belongs d

/-- **A period that has a row of counted months** means their days. -/
theorem spans_of_months {Belongs : Date → Prop} {Leaves : Prop}
    (hwindow : period.window? today = months? first last) (hle : first ≤ last)
    (hbelongs : ∀ d, Belongs d ↔ first ≤ d.monthIndex ∧ d.monthIndex ≤ last)
    (hleaves : Leaves ↔ first < firstYear * 12 ∨ lastYear * 12 + 11 ≤ last) :
    period.Spans today Belongs Leaves := by
  constructor
  · rw [hwindow, months?_eq_none_iff hle, hleaves]
  · intro w hw
    rw [hwindow] at hw
    have hin : ¬ (first < firstYear * 12 ∨ lastYear * 12 + 11 ≤ last) := by
      rw [← months?_eq_none_iff hle, hw]
      simp
    obtain ⟨start, stop, hmonths, hstart, hstop, hcontains⟩ :=
      contains_of_months (show firstYear * 12 ≤ first by omega)
        (show first < lastYear * 12 + 12 by omega) (show firstYear * 12 ≤ last by omega)
        (show last < lastYear * 12 + 11 by omega)
    obtain rfl : w = .between start stop := Option.some.inj (hw.symm.trans hmonths)
    refine ⟨start, stop, rfl, ?_, ?_, fun d => ?_⟩
    · rw [hbelongs]
      omega
    · rw [hbelongs]
      omega
    · rw [hbelongs, ← hcontains, Window.contains, decide_eq_true_eq]

theorem spans_thisMonth (today : Date) :
    thisMonth.Spans today today.InMonthOf (today.year = 262142 ∧ today.month = 12) := by
  obtain ⟨hfirst, hlast, hmonth, hmonth', -, -⟩ := today.inCalendar
  unfold firstYear at hfirst
  unfold lastYear at hlast
  refine spans_of_months rfl (Int.le_refl _) (fun d => ?_) ?_
  · obtain ⟨-, -, hd, hd', -, -⟩ := d.inCalendar
    unfold Date.InMonthOf Date.monthIndex
    omega
  · unfold Date.monthIndex firstYear lastYear
    omega

theorem spans_lastMonth (today : Date) :
    lastMonth.Spans today today.InMonthBefore (today.year = -262143 ∧ today.month = 1) := by
  obtain ⟨hfirst, hlast, hmonth, hmonth', -, -⟩ := today.inCalendar
  unfold firstYear at hfirst
  unfold lastYear at hlast
  refine spans_of_months rfl (Int.le_refl _) (fun d => ?_) ?_
  · obtain ⟨-, -, hd, hd', -, -⟩ := d.inCalendar
    unfold Date.InMonthBefore Date.monthIndex
    split <;> omega
  · unfold Date.monthIndex firstYear lastYear
    omega

theorem spans_thisQuarter (today : Date) :
    thisQuarter.Spans today (Date.InQuarter today.year (Date.quarterOf today.month))
      (today.year = 262142 ∧ Date.quarterOf today.month = 4) := by
  obtain ⟨hfirst, hlast, hmonth, hmonth', -, -⟩ := today.inCalendar
  unfold firstYear at hfirst
  unfold lastYear at hlast
  refine spans_of_months rfl (by omega) (fun d => ?_) ?_
  · obtain ⟨-, -, hd, hd', -, -⟩ := d.inCalendar
    unfold Date.InQuarter Date.quarterIndex Date.monthIndex Date.quarterOf
    omega
  · unfold Date.quarterIndex Date.quarterOf firstYear lastYear
    omega

theorem spans_lastQuarter (today : Date) :
    lastQuarter.Spans today today.InQuarterBefore
      (today.year = -262143 ∧ Date.quarterOf today.month = 1) := by
  obtain ⟨hfirst, hlast, hmonth, hmonth', -, -⟩ := today.inCalendar
  unfold firstYear at hfirst
  unfold lastYear at hlast
  refine spans_of_months rfl (by omega) (fun d => ?_) ?_
  · obtain ⟨-, -, hd, hd', -, -⟩ := d.inCalendar
    unfold Date.InQuarterBefore Date.InQuarter Date.quarterIndex Date.monthIndex Date.quarterOf
    split <;> omega
  · unfold Date.quarterIndex Date.quarterOf firstYear lastYear
    omega

/-- **The windows of months and quarters.** On any day of the calendar this month, the last month,
this quarter and the last quarter are the ranges of their days, each missing only at one end of the
calendar; and the last month and the last quarter end on the day before this month and this quarter
begin. -/
theorem windows_of_calendar (today : Date) :
    thisMonth.Spans today today.InMonthOf (today.year = 262142 ∧ today.month = 12) ∧
      lastMonth.Spans today today.InMonthBefore (today.year = -262143 ∧ today.month = 1) ∧
      thisQuarter.Spans today (Date.InQuarter today.year (Date.quarterOf today.month))
        (today.year = 262142 ∧ Date.quarterOf today.month = 4) ∧
      lastQuarter.Spans today today.InQuarterBefore
        (today.year = -262143 ∧ Date.quarterOf today.month = 1) ∧
      (∀ start stop start' stop', thisMonth.window? today = some (.between start stop) →
        lastMonth.window? today = some (.between start' stop') → stop'.IsDayBefore start) ∧
      ∀ start stop start' stop', thisQuarter.window? today = some (.between start stop) →
        lastQuarter.window? today = some (.between start' stop') → stop'.IsDayBefore start := by
  refine ⟨spans_thisMonth today, spans_lastMonth today, spans_thisQuarter today,
    spans_lastQuarter today, fun start stop start' stop' hthis hlast => ?_,
    fun start stop start' stop' hthis hlast => ?_⟩
  · obtain ⟨⟨hstart, hday⟩, -⟩ := ends_of_months (Int.le_refl _) hthis
    obtain ⟨-, hstop, hday'⟩ := ends_of_months (Int.le_refl _) hlast
    exact Date.isDayBefore_of_months hday' hday (by omega)
  · obtain ⟨⟨hstart, hday⟩, -⟩ := ends_of_months (by omega) hthis
    obtain ⟨-, hstop, hday'⟩ := ends_of_months (by omega) hlast
    exact Date.isDayBefore_of_months hday' hday (by omega)

/-- Seen from the last day of May, the last quarter ends on the last day of March. -/
example : lastQuarter.window? ⟨2024, 5, 31, by decide⟩ =
    some (.between ⟨2024, 1, 1, by decide⟩ ⟨2024, 3, 31, by decide⟩) := by decide

end Period

end SalesLedger.Calendar
