import SalesLedger.Calendar.Period
import SalesLedger.Proofs.DateOrder

/-!
# Windows of periods

Which days a period means. Months are counted in one row, so a window of months has the days whose
months lie between two numbers: `contains_of_months`. Seen from a day of the years 1 to 9999,
`window_spec` says for every period of days which days its window has, and that they begin and end
in the years 0 to 9999.
-/

namespace SalesLedger.Calendar

/-! ## Months -/

namespace Date

variable {i : Int} {d : Date}

theorem year_of_monthIndex (d : Date) : d.year = d.monthIndex / 12 := by
  obtain ⟨-, -, hmonth, hmonth', -, -⟩ := d.inCalendar
  unfold monthIndex
  omega

theorem month_of_monthIndex (d : Date) : (d.month : Int) = d.monthIndex % 12 + 1 := by
  obtain ⟨-, -, hmonth, hmonth', -, -⟩ := d.inCalendar
  unfold monthIndex
  omega

theorem hasPlainYear_of_monthIndex (hlow : 0 ≤ d.monthIndex) (hhigh : d.monthIndex < 120000) :
    d.HasPlainYear := by
  unfold HasPlainYear
  rw [year_of_monthIndex]
  omega

theorem exists_firstOf (hlow : firstYear * 12 ≤ i) (hhigh : i < lastYear * 12 + 12) :
    ∃ d, firstOf? i = some d := by
  rw [← Option.isSome_iff_exists, Option.isSome_iff_ne_none, ne_eq, firstOf?_eq_none_iff]
  omega

/-- The day before the first of a month is the last of the month before. -/
theorem pred_of_first (hday : d.day = 1) (hlow : firstYear * 12 < d.monthIndex) :
    ∃ l, d.pred? = some l ∧ l.monthIndex = d.monthIndex - 1 ∧
      l.day = daysInMonth l.year l.month := by
  obtain ⟨hfirst, hlast, hmonth, hmonth', -, -⟩ := d.inCalendar
  unfold monthIndex at hlow
  unfold pred?
  rw [if_neg (by omega)]
  -- the month before is of the same year, but for January
  split
  · have hone := one_le_daysInMonth d.year (d.month - 1)
    have hvalid : InCalendar d.year (d.month - 1) (daysInMonth d.year (d.month - 1)) :=
      ⟨hfirst, hlast, by omega, by omega, hone, Nat.le_refl _⟩
    refine ⟨⟨_, _, _, hvalid⟩, dif_pos hvalid, ?_, rfl⟩
    unfold monthIndex
    dsimp only
    omega
  · have hvalid : InCalendar (d.year - 1) 12 31 :=
      ⟨by omega, by omega, by decide, by decide, by decide, Nat.le_refl 31⟩
    refine ⟨⟨_, _, _, hvalid⟩, dif_pos hvalid, ?_, rfl⟩
    unfold monthIndex
    dsimp only
    omega

/-- **The last day of a counted month** is as many days on as the month has. -/
theorem exists_lastOf (hlow : firstYear * 12 ≤ i) (hhigh : i < lastYear * 12 + 11) :
    ∃ l, lastOf? i = some l ∧ l.monthIndex = i ∧ l.day = daysInMonth l.year l.month := by
  obtain ⟨first, hfirst⟩ := exists_firstOf (i := i + 1) (by omega) (by omega)
  obtain ⟨hindex, hday⟩ := monthIndex_firstOf hfirst
  obtain ⟨l, hl, hmonth, hlast⟩ := pred_of_first hday (by omega)
  refine ⟨l, ?_, by omega, hlast⟩
  unfold lastOf?
  rw [hfirst]
  exact hl

/-- A day is not before the first of a month, if its own month is not. -/
theorem first_le_iff {first : Date} (hday : first.day = 1) :
    first ≤ d ↔ first.monthIndex ≤ d.monthIndex := by
  obtain ⟨-, -, -, -, hone, hlast⟩ := d.inCalendar
  have hdays := daysInMonth_le d.year d.month
  show first.ordinal ≤ d.ordinal ↔ _
  unfold ordinal
  omega

theorem le_last_iff {last : Date} (hday : last.day = daysInMonth last.year last.month) :
    d ≤ last ↔ d.monthIndex ≤ last.monthIndex := by
  obtain ⟨-, -, -, -, hone, hlast⟩ := d.inCalendar
  have hdays := daysInMonth_le d.year d.month
  have hdays' := daysInMonth_le last.year last.month
  have hsame : d.monthIndex = last.monthIndex → d.day ≤ last.day := by
    intro heq
    have hyear : d.year = last.year := by
      rw [year_of_monthIndex, heq, ← year_of_monthIndex]
    have hmonth : d.month = last.month := by
      have hboth := month_of_monthIndex d
      rw [heq, ← month_of_monthIndex] at hboth
      exact Int.ofNat.inj hboth
    rw [hday, ← hyear, ← hmonth]
    exact hlast
  show d.ordinal ≤ last.ordinal ↔ _
  unfold ordinal
  omega

/-- The first month of a day's quarter, and the day's month in it. -/
theorem quarterIndex_le (d : Date) :
    d.quarterIndex ≤ d.monthIndex ∧ d.monthIndex ≤ d.quarterIndex + 2 := by
  obtain ⟨-, -, hmonth, hmonth', -, -⟩ := d.inCalendar
  unfold quarterIndex quarterOf monthIndex
  omega

theorem quarterIndex_mod (d : Date) : d.quarterIndex % 3 = 0 := by
  unfold quarterIndex
  omega

end Date

/-! ## Windows -/

/-- A window whose first and last day are of the years 0 to 9999. -/
def Window.HasPlainYears : Window → Prop
  | .between start stop => start.HasPlainYear ∧ stop.HasPlainYear
  | .year _ => False

namespace Period

/-- Whether a day belongs to a period, seen from another day. -/
def covers (today : Date) : Period → Date → Bool
  | thisMonth, d => d.monthIndex == today.monthIndex
  | lastMonth, d => d.monthIndex == today.monthIndex - 1
  | thisQuarter, d => d.quarterIndex == today.quarterIndex
  | lastQuarter, d => d.quarterIndex == today.quarterIndex - 3
  | yearToDate, d => d.year == today.year
  | allTime, _ => true
  | range start stop, d => start ≤ d ∧ d ≤ stop

/-- A period that names its days, a range of them in the years 0 to 9999. The days of this year are
asked for by the year alone. -/
def IsOfDays : Period → Prop
  | yearToDate => False
  | range start stop => start.HasPlainYear ∧ stop.HasPlainYear
  | _ => True

/-- **The days between two counted months.** -/
theorem contains_of_months {first last : Int} (hfirst : firstYear * 12 ≤ first)
    (hfirst' : first < lastYear * 12 + 12) (hlast : firstYear * 12 ≤ last)
    (hlast' : last < lastYear * 12 + 11) :
    ∃ start stop, months? first last = some (.between start stop) ∧ start.monthIndex = first ∧
      stop.monthIndex = last ∧ ∀ d, (Window.between start stop).contains d = true ↔
        first ≤ d.monthIndex ∧ d.monthIndex ≤ last := by
  obtain ⟨start, hstart⟩ := Date.exists_firstOf hfirst hfirst'
  obtain ⟨hindex, hday⟩ := Date.monthIndex_firstOf hstart
  obtain ⟨stop, hstop, hindex', hday'⟩ := Date.exists_lastOf hlast hlast'
  refine ⟨start, stop, ?_, hindex, hindex', fun d => ?_⟩
  · unfold months?
    rw [hstart, hstop]
    rfl
  · rw [Window.contains, decide_eq_true_eq, Date.first_le_iff hday, Date.le_last_iff hday', hindex,
      hindex']

/-- The months of the years 0 to 9999 are counted from 0 on. Between two of them are the days of the
months from the one to the other. -/
theorem months?_spec {first last : Int} (hfirst : 0 ≤ first) (hfirst' : first < 120000)
    (hlast : 0 ≤ last) (hlast' : last < 120000) {covered : Date → Bool}
    (hcovered : ∀ d, covered d = true ↔ first ≤ d.monthIndex ∧ d.monthIndex ≤ last) :
    (∀ d, (months? first last).all (Window.contains · d) = covered d) ∧
      ∀ w ∈ months? first last, w.HasPlainYears := by
  have hcalendar : firstYear * 12 ≤ 0 ∧ (120000 : Int) < lastYear * 12 := by decide
  obtain ⟨start, stop, hwindow, hindex, hindex', hcontains⟩ :=
    contains_of_months (show firstYear * 12 ≤ first by omega)
      (show first < lastYear * 12 + 12 by omega) (show firstYear * 12 ≤ last by omega)
      (show last < lastYear * 12 + 11 by omega)
  rw [hwindow]
  refine ⟨fun d => ?_, fun w hw => ?_⟩
  · rw [Option.all_some, Bool.eq_iff_iff, hcontains, hcovered]
  · obtain rfl := Option.some.inj hw
    exact ⟨Date.hasPlainYear_of_monthIndex (by omega) (by omega),
      Date.hasPlainYear_of_monthIndex (by omega) (by omega)⟩

variable {today : Date}

/-- **The window of a period has the days that belong to it**, and is restricted by plain years. -/
theorem window_spec (hyear : 1 ≤ today.year) (hyear' : today.year ≤ 9999) {period : Period}
    (hperiod : period.IsOfDays) :
    (∀ d, (period.window? today).all (Window.contains · d) = period.covers today d) ∧
      ∀ w ∈ period.window? today, w.HasPlainYears := by
  obtain ⟨-, -, hmonth, hmonth', -, -⟩ := today.inCalendar
  have hindex : today.monthIndex = today.year * 12 + ((today.month : Int) - 1) := rfl
  have hquarter := today.quarterIndex_le
  have hquarter' := today.quarterIndex_mod
  -- the months before the year 1 are those of the year 0, which is plain
  cases period with
  | thisMonth =>
    refine months?_spec (by omega) (by omega) (by omega) (by omega) fun d => ?_
    rw [covers, beq_iff_eq]
    omega
  | lastMonth =>
    refine months?_spec (by omega) (by omega) (by omega) (by omega) fun d => ?_
    rw [covers, beq_iff_eq]
    omega
  | thisQuarter =>
    refine months?_spec (by omega) (by omega) (by omega) (by omega) fun d => ?_
    have hd := d.quarterIndex_le
    have hd' := d.quarterIndex_mod
    rw [covers, beq_iff_eq]
    omega
  | lastQuarter =>
    refine months?_spec (by omega) (by omega) (by omega) (by omega) fun d => ?_
    have hd := d.quarterIndex_le
    have hd' := d.quarterIndex_mod
    rw [covers, beq_iff_eq]
    omega
  | yearToDate => cases hperiod
  | allTime => exact ⟨fun d => rfl, fun w hw => by cases hw⟩
  | range start stop =>
    refine ⟨fun d => rfl, fun w hw => ?_⟩
    obtain rfl := Option.some.inj hw
    exact hperiod

end Period

end SalesLedger.Calendar
