import Mathlib.Data.List.TakeWhile
import SalesLedger.Proofs.JulianDays
import SalesLedger.Sql.Moment.Reader
import SalesLedger.Sql.Moment.Writer

/-!
# Moments of written dates

A database reads the text of a date as a moment, and counts the last days of a month anew. For the
dates of the years 0 to 9999 it arrives at the day that was written: `dayOfCell?_text`. The month
that it then writes is the month of the date, `monthText_eq`.

* `digits?_padded`, `yearMonthDay?_text`: a reader of as many digits as were written.
* `monthText_inj`: months are told apart by their texts.
-/

namespace SalesLedger

open Calendar Sql

namespace Sql.Moment

/-! ## Digits -/

theorem decimal?_padded (width n : Nat) : Text.decimal? (padded width n) = some n :=
  decimal?_eq_some_iff.2 ⟨padded_ne_nil width n, areDigits_padded width n,
    ofDigitChars_padded width n⟩

/-- **As many digits as were written are read.** -/
theorem digits?_padded {count low high n : Nat} (hcount : 0 < count) (hn : n < 10 ^ count)
    (hlow : low ≤ n) (hhigh : n ≤ high) (rest : List Char) :
    digits? count low high (padded count n ++ rest) = some (n, rest) := by
  have hlength := length_padded hcount hn
  unfold digits?
  rw [List.splitAt_eq, List.take_left' hlength, List.drop_left' hlength]
  simp only [hlength, if_true, decimal?_padded, bind, Option.bind_some, hlow, hhigh, and_self]

/-! ## Dates -/

variable {d : Date}

/-- The characters of a date of the years 0 to 9999 are digits and hyphens. -/
theorem toList_text_of_plain (h : d.HasPlainYear) : d.text.toList =
    padded 4 d.year.natAbs ++ '-' :: (padded 2 d.month ++ '-' :: (padded 2 d.day ++ [])) := by
  rw [toList_text, Date.yearChars_of_plain h, List.append_nil]

theorem yearMonthDay?_text (h : d.HasPlainYear) : yearMonthDay? 4 1 12 31 d.text.toList =
    some (d.year.natAbs, d.month, d.day, []) := by
  obtain ⟨-, -, hmonth, hmonth', hday, hday'⟩ := d.inCalendar
  have hdays := Date.daysInMonth_le d.year d.month
  obtain ⟨hlow, hhigh⟩ := h
  rw [toList_text_of_plain ⟨hlow, hhigh⟩]
  unfold yearMonthDay?
  rw [digits?_padded (by decide) (by omega) (by omega) (by omega)]
  simp only [bind, Option.bind_some, mark?, beq_self_eq_true, if_true, pure]
  rw [digits?_padded (by decide) (by omega) hmonth hmonth']
  simp only [Option.bind_some, beq_self_eq_true, if_true]
  rw [digits?_padded (by decide) (by omega) hday (by omega)]
  rfl

/-- **The text of a date names its day**, whatever a moment lacks else. -/
theorem ofDate?_text (h : d.HasPlainYear) :
    ofDate? d.text.toList = some { day? := some (d.year, (d.month : Int), (d.day : Int)) } := by
  have hread := yearMonthDay?_text h
  have hyear : ((d.year.natAbs : Nat) : Int) = d.year := Int.natAbs_of_nonneg h.1
  obtain ⟨c, cs, hcons⟩ := List.exists_cons_of_ne_nil (padded_ne_nil 4 d.year.natAbs)
  have hsign : c ≠ '-' := by
    have hdigit := areDigits_padded 4 d.year.natAbs c (hcons ▸ List.mem_cons_self)
    rintro rfl
    exact absurd hdigit (by decide)
  have hchars : d.text.toList =
      c :: (cs ++ '-' :: (padded 2 d.month ++ '-' :: (padded 2 d.day ++ []))) := by
    rw [toList_text_of_plain h, hcons, List.cons_append]
  unfold ofDate?
  split
  rename_i heq
  split at heq
  · rename_i hminus
    rw [hchars] at hminus
    exact absurd (List.cons.inj hminus).1 hsign
  · obtain ⟨rfl, rfl⟩ := Prod.mk.inj heq
    rw [hread]
    simp only [bind, Option.bind_some, List.dropWhile_nil, List.isEmpty_nil, if_true, pure,
      Bool.false_eq_true, if_false, hyear]

/-- A date has no character that ends a text. -/
theorem takeWhile_text (h : d.HasPlainYear) :
    (d.text.toList.takeWhile fun c => c.toNat != 0) = d.text.toList := by
  have hpadded : ∀ width n, ∀ c ∈ padded width n, (c.toNat != 0) = true := by
    intro width n c hc
    have hdigit := toNat_of_isDigit (areDigits_padded width n c hc)
    rw [bne_iff_ne]
    omega
  rw [List.takeWhile_eq_self_iff, toList_text_of_plain h]
  intro c hc
  simp only [List.append_nil, List.mem_append, List.mem_cons] at hc
  rcases hc with hc | rfl | hc | rfl | hc
  · exact hpadded _ _ c hc
  · decide
  · exact hpadded _ _ c hc
  · decide
  · exact hpadded _ _ c hc

theorem ofCell_text (h : d.HasPlainYear) : ofCell false (.text d.text) =
    .ok { day? := some (d.year, (d.month : Int), (d.day : Int)) } := by
  show ofText false d.text = _
  unfold ofText
  rw [takeWhile_text h]
  dsimp only
  rw [ofDate?_text h]
  rfl

/-- A moment of a day alone begins with it. -/
theorem settled_of_day {day : Day} {start : Int} (hstart : instantOf? day = some start)
    (hcounts : counts start = true) : settled { day? := some day } =
      .ok { day? := some day, instant? := some start } := by
  have hinstant : withInstant { day? := some day } =
      .ok { day? := some day, instant? := some start } := by
    unfold withInstant
    dsimp only
    rw [Option.isSome_none, if_neg Bool.false_ne_true, Option.getD_some, hstart]
  unfold settled
  rw [hinstant]
  show (if (some start).any counts then _ else _) = _
  rw [Option.any_some, hcounts, if_pos rfl]
  rfl

/-- A day at the end of a month is counted anew. -/
theorem withDay_alone {day : Day} {start : Int} (hstart : instantOf? day = some start)
    (hcounts : counts start = true) : alone { day? := some day } >>= withDay =
      .ok { day? := some (if 28 < day.2.2 then dayOf start else day), instant? := some start } := by
  unfold alone
  rw [settled_of_day hstart hcounts]
  show (if decide (28 < day.2.2) then Except.ok { instant? := some start }
    else .ok { day? := some day, instant? := some start }) >>= withDay = _
  by_cases hlate : 28 < day.2.2
  · rw [decide_eq_true hlate, if_pos rfl, if_pos hlate]
    show withDay { instant? := some start } = _
    unfold withDay
    dsimp only
    rw [if_pos hcounts]
  · rw [decide_eq_false hlate, if_neg Bool.false_ne_true, if_neg hlate]
    rfl

/-- **The day of a written date** of the years 0 to 9999, also at the end of its month. -/
theorem dayOfCell?_text (h : d.HasPlainYear) :
    dayOfCell? (.text d.text) = some (d.year, (d.month : Int), (d.day : Int)) := by
  obtain ⟨start, hstart, hcounts, hend⟩ := isKnown_of_plain d h
  have hday : (if (28 : Int) < d.day then dayOf start
      else (d.year, (d.month : Int), (d.day : Int))) = (d.year, (d.month : Int), (d.day : Int)) := by
    split
    · exact hend (by omega)
    · rfl
  have hread : ofCell false (.text d.text) >>= alone >>= withDay =
      .ok { day? := some (d.year, (d.month : Int), (d.day : Int)), instant? := some start } := by
    rw [ofCell_text h]
    refine (withDay_alone hstart hcounts).trans ?_
    dsimp only
    rw [hday]
  unfold dayOfCell?
  rw [hread]

/-! ## Months -/

theorem paddedChars_natCast (width n : Nat) : paddedChars width n = padded width n := by
  unfold paddedChars
  rw [if_neg (by omega), Int.natAbs_natCast]

/-- **The month that is written for a date** is its own. -/
theorem monthText_eq (h : d.HasPlainYear) : monthText d.year d.month = d.monthText := by
  obtain ⟨n, hn⟩ := Int.eq_ofNat_of_zero_le h.1
  unfold monthText Date.monthText
  rw [Date.yearChars_of_plain h, hn, paddedChars_natCast, paddedChars_natCast, Int.natAbs_natCast]

/-- **Months are told apart by their texts.** -/
theorem monthText_inj {a b : Date} (ha : a.HasPlainYear) (hb : b.HasPlainYear) :
    a.monthText = b.monthText ↔ a.monthIndex = b.monthIndex := by
  obtain ⟨-, -, hmonth, hmonth', -, -⟩ := a.inCalendar
  obtain ⟨-, -, hmonthb, hmonthb', -, -⟩ := b.inCalendar
  obtain ⟨hyear, hyear'⟩ := ha
  obtain ⟨hyearb, hyearb'⟩ := hb
  have hlength : (padded 4 a.year.natAbs).length = (padded 4 b.year.natAbs).length := by
    rw [length_padded (by decide) (by omega), length_padded (by decide) (by omega)]
  constructor
  · intro heq
    unfold Date.monthText at heq
    rw [Date.yearChars_of_plain ⟨hyear, hyear'⟩, Date.yearChars_of_plain ⟨hyearb, hyearb'⟩,
      String.ofList_inj] at heq
    obtain ⟨hyears, hmonths⟩ := List.append_inj heq hlength
    rw [padded_inj] at hyears
    rw [List.cons.injEq, padded_inj] at hmonths
    unfold Date.monthIndex
    omega
  · intro heq
    have hsame : a.year = b.year ∧ a.month = b.month := by
      unfold Date.monthIndex at heq
      omega
    unfold Date.monthText
    rw [hsame.1, hsame.2]

end Sql.Moment

end SalesLedger
