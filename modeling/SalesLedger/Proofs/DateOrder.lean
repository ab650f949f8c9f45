import Mathlib.Data.List.Basic
import SalesLedger.Proofs.DateReading

/-!
# The order of written dates

A database compares dates by their texts. Dates of the years 0 to 9999 are written with as many
digits each, so their texts are in the order of the dates: `text_le_iff`. Earlier and later years
have a sign, which no number orders.

* `ofDigitChars_lt_iff`: rows of as many digits are in the order of their numbers.
* `append_lt_append_iff`: of two rows that are joined the first decides, unless it is the same.
* `text_lt_of_wide`: dates after the year 9999 have texts before those of all others.
-/

namespace SalesLedger.Calendar

/-! ## Texts -/

/-- **Rows of as many digits are in the order of their numbers**, whatever is in front of them. -/
theorem ofDigitChars_lt_iff {cs ds : List Char} (hcs : AreDigits cs) (hds : AreDigits ds)
    (hlength : cs.length = ds.length) (m n : Nat) :
    Nat.ofDigitChars 10 cs m < Nat.ofDigitChars 10 ds n ↔ m < n ∨ m = n ∧ cs < ds := by
  induction cs generalizing ds m n with
  | nil =>
    obtain rfl := List.length_eq_zero_iff.1 hlength.symm
    simp [Nat.ofDigitChars_nil]
  | cons c cs ih =>
    cases ds with
    | nil => cases hlength
    | cons d ds =>
      have hc := toNat_of_isDigit (hcs c List.mem_cons_self)
      have hd := toNat_of_isDigit (hds d List.mem_cons_self)
      have hlt : c < d ↔ c.toNat < d.toNat := .rfl
      have heq : c = d ↔ c.toNat = d.toNat := Char.toNat_inj.symm
      rw [Nat.ofDigitChars_cons, Nat.ofDigitChars_cons,
        ih (fun x hx => hcs x (List.mem_cons_of_mem _ hx))
          (fun x hx => hds x (List.mem_cons_of_mem _ hx)) (Nat.succ.inj hlength),
        List.cons_lt_cons_iff, hlt, heq, show '0'.toNat = 0x30 from rfl]
      by_cases hrest : cs < ds <;> simp only [hrest, and_true, and_false, or_false] <;> omega

/-- Numbers of as many digits are in the order of their digits. -/
theorem padded_lt_iff {width m n : Nat} (hwidth : 0 < width) (hm : m < 10 ^ width)
    (hn : n < 10 ^ width) : padded width m < padded width n ↔ m < n := by
  have hlength : (padded width m).length = (padded width n).length := by
    rw [length_padded hwidth hm, length_padded hwidth hn]
  have hlt := ofDigitChars_lt_iff (areDigits_padded width m) (areDigits_padded width n) hlength 0 0
  rw [ofDigitChars_padded, ofDigitChars_padded] at hlt
  rw [hlt]
  simp

theorem padded_inj {width m n : Nat} : padded width m = padded width n ↔ m = n := by
  refine ⟨fun h => ?_, congrArg _⟩
  rw [← ofDigitChars_padded width m, h, ofDigitChars_padded]

/-- What begins with rows of one length is ordered by these first. -/
theorem append_lt_append_iff {as bs cs ds : List Char} (hlength : as.length = bs.length) :
    as ++ cs < bs ++ ds ↔ as < bs ∨ as = bs ∧ cs < ds := by
  induction as generalizing bs with
  | nil =>
    obtain rfl := List.length_eq_zero_iff.1 hlength.symm
    simp
  | cons a as ih =>
    cases bs with
    | nil => cases hlength
    | cons b bs =>
      rw [List.cons_append, List.cons_append, List.cons_lt_cons_iff, List.cons_lt_cons_iff,
        ih (Nat.succ.inj hlength), List.cons.injEq, and_or_left, ← or_assoc, and_assoc]

/-! ## Dates -/

namespace Date

/-- The years that are written with four digits and no sign. -/
def HasPlainYear (d : Date) : Prop := 0 ≤ d.year ∧ d.year ≤ 9999

variable {a b : Date}

theorem yearChars_of_plain (h : a.HasPlainYear) : yearChars a.year = padded 4 a.year.natAbs := by
  unfold yearChars
  rw [if_neg (Int.not_lt.2 h.1), if_neg (Int.not_lt.2 h.2)]

theorem text_lt_iff (ha : a.HasPlainYear) (hb : b.HasPlainYear) : a.text < b.text ↔ a < b := by
  obtain ⟨-, -, hfirst, hmonth, hone, hday⟩ := a.inCalendar
  obtain ⟨-, -, hfirst', hmonth', hone', hday'⟩ := b.inCalendar
  have hdays := daysInMonth_le a.year a.month
  have hdays' := daysInMonth_le b.year b.month
  have hyear := ha.1
  have hyear' := hb.1
  have hlast := ha.2
  have hlast' := hb.2
  have hpadded : ∀ {width m n : Nat}, 0 < width → m < 10 ^ width → n < 10 ^ width →
      (padded width m).length = (padded width n).length := fun hwidth hm hn => by
    rw [length_padded hwidth hm, length_padded hwidth hn]
  show a.text.toList < b.text.toList ↔ _
  rw [toList_text, toList_text, yearChars_of_plain ha, yearChars_of_plain hb,
    append_lt_append_iff (hpadded (by decide) (by omega) (by omega)),
    padded_lt_iff (by decide) (by omega) (by omega), padded_inj, List.cons_lt_cons_iff,
    append_lt_append_iff (hpadded (by decide) (by omega) (by omega)),
    padded_lt_iff (by decide) (by omega) (by omega), padded_inj, List.cons_lt_cons_iff,
    padded_lt_iff (by decide) (by omega) (by omega)]
  have hself : ¬ ('-' : Char) < '-' := by decide
  simp only [hself, false_or, true_and]
  show _ ↔ a.ordinal < b.ordinal
  unfold ordinal monthIndex
  omega

/-- **Dates of the years 0 to 9999 are in the order of their texts.** -/
theorem text_le_iff (ha : a.HasPlainYear) (hb : b.HasPlainYear) : a.text ≤ b.text ↔ a ≤ b := by
  rw [← String.not_lt, text_lt_iff hb ha]
  exact Int.not_lt

/-- A date has one text, and no other date has it. -/
theorem text_inj : a.text = b.text ↔ a = b := by
  refine ⟨fun h => ?_, congrArg _⟩
  have hread := read_text a
  rw [h, read_text b] at hread
  exact (Except.ok.inj hread).symm

theorem lt_of_year_lt (h : a.year < b.year) : a < b := by
  obtain ⟨-, -, -, hmonth, -, hday⟩ := a.inCalendar
  obtain ⟨-, -, hfirst, -, hone, -⟩ := b.inCalendar
  have hdays := daysInMonth_le a.year a.month
  show a.ordinal < b.ordinal
  unfold ordinal monthIndex
  omega

/-- **A date after the year 9999 has a text before those of all others.** -/
theorem text_lt_of_wide (ha : 9999 < a.year) (hb : b.year ≤ 9999) : a.text < b.text := by
  obtain ⟨c, rest, hyear, hc⟩ : ∃ c rest, yearChars b.year = c :: rest ∧ '+' < c := by
    unfold yearChars
    split
    · exact ⟨'-', _, rfl, by decide⟩
    · rw [if_neg (Int.not_lt.2 hb)]
      obtain ⟨c, rest, hdigits⟩ := List.exists_cons_of_ne_nil (padded_ne_nil 4 b.year.natAbs)
      have hdigit := areDigits_padded 4 b.year.natAbs c (hdigits ▸ List.mem_cons_self)
      exact ⟨c, rest, hdigits, Nat.lt_of_lt_of_le (by decide) (toNat_of_isDigit hdigit).1⟩
  have hwide : yearChars a.year = '+' :: padded 4 a.year.natAbs := by
    unfold yearChars
    rw [if_neg (by omega), if_pos ha]
  show a.text.toList < b.text.toList
  rw [toList_text, toList_text, hyear, hwide]
  exact List.cons_lt_cons_iff.2 (.inl hc)

end Date

end SalesLedger.Calendar
