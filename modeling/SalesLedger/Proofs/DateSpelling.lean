import Mathlib.Data.List.TakeWhile
import SalesLedger.Proofs.DateReading
import SalesLedger.Steps

/-!
# Which texts are dates

What the readers of dates take, whatever stands behind it: blanks and a year, a mark, blanks and a
month, a mark, blanks and a day. Month and day have one or two digits, a year without a sign at most
four, one with a sign any number. A time of day is three such numbers with colons.

* `readNumber_eq_ok_iff`: a reader takes all the digits that a text leads with, or as many as it is
  wide.
* `readField_eq_ok_iff`, `readYear_eq_ok_iff`: a month or a day, and a year.
* `readParts_eq_ok_iff`: the three with their marks; `readTime_eq_ok_iff`: a time of day.
* `read_eq_ok_iff`: a text is read as a date just if it spells that date.
-/

namespace SalesLedger.Calendar

/-! ## Numbers -/

/-- A text leads with a number of at most `width` digits: with all its first digits, or with
`width` of them. -/
def LeadsWith (width : Nat) (cs : List Char) (n : Nat) (rest : List Char) : Prop :=
  ∃ ds, cs = ds ++ rest ∧ ds ≠ [] ∧ AreDigits ds ∧ Nat.ofDigitChars 10 ds 0 = n ∧
    (ds.length = width ∨ ds.length < width ∧ ∀ c ∈ rest.head?, Text.isDigit c = false)

variable {width low high n : Nat} {year : Int} {month day : Nat} {cs rest : List Char}
  {mark : Char}

theorem exists_digits (width n : Nat) (cs : List Char) :
    ∃ ds, cs = ds ++ (readDigits width n cs).2 ∧ AreDigits ds ∧
      (readDigits width n cs).1 = Nat.ofDigitChars 10 ds n ∧
      (ds.length = width ∨ ds.length < width ∧
        ∀ c ∈ (readDigits width n cs).2.head?, Text.isDigit c = false) := by
  induction width generalizing n cs with
  | zero => exact ⟨[], rfl, nofun, Nat.ofDigitChars_nil.symm, .inl rfl⟩
  | succ width ih =>
    cases cs with
    | nil => exact ⟨[], rfl, nofun, Nat.ofDigitChars_nil.symm, .inr ⟨Nat.succ_pos _, nofun⟩⟩
    | cons c cs =>
      rw [readDigits]
      cases hc : Text.digit? c with
      | none =>
        refine ⟨[], rfl, nofun, Nat.ofDigitChars_nil.symm, .inr ⟨Nat.succ_pos _, ?_⟩⟩
        rintro _ ⟨⟩
        rw [Text.isDigit, hc, Option.isSome_none]
      | some d =>
        obtain ⟨ds, hcs, hds, hvalue, hlength⟩ := ih (n * 10 + d) cs
        have hdigit : Text.isDigit c = true := by rw [Text.isDigit, hc, Option.isSome_some]
        have hd : d = c.toNat - '0'.toNat := by
          rw [digit?_of_isDigit hdigit] at hc
          exact (Option.some.inj hc).symm
        refine ⟨c :: ds, congrArg (c :: ·) hcs, ?_, ?_, ?_⟩
        · rintro b (_ | ⟨_, hb⟩)
          · exact hdigit
          · exact hds b hb
        · rw [Nat.ofDigitChars_cons, ← hd, Nat.mul_comm 10 n]
          exact hvalue
        · rw [List.length_cons]
          exact hlength.imp (congrArg (· + 1)) (And.imp_left Nat.succ_lt_succ)

/-- **A reader takes the number that a text leads with.** -/
theorem readNumber_eq_ok_iff (hwidth : 0 < width) :
    readNumber width cs = .ok (n, rest) ↔ LeadsWith width cs n rest := by
  constructor
  · intro h
    unfold readNumber at h
    cases cs with
    | nil => cases h
    | cons c cs =>
      cases hc : Text.digit? c with
      | none => simp [hc] at h
      | some d =>
        simp only [hc, Except.ok.injEq] at h
        obtain ⟨ds, hcs, hds, hvalue, hlength⟩ := exists_digits width 0 (c :: cs)
        rw [h] at hcs hvalue hlength
        refine ⟨ds, hcs, ?_, hds, hvalue.symm, hlength⟩
        -- the first character is a digit, so it is taken
        rintro rfl
        rcases hlength with hzero | ⟨-, hnot⟩
        · exact absurd hzero (Nat.ne_of_lt hwidth)
        · have hhead : c ∈ rest.head? := by rw [← show c :: cs = rest from hcs]; rfl
          have hdigit := hnot c hhead
          rw [Text.isDigit, hc] at hdigit
          cases hdigit
  · rintro ⟨ds, rfl, hne, hds, rfl, hlength⟩
    exact readNumber_append hds hne (hlength.elim Nat.le_of_eq fun h => Nat.le_of_lt h.1)
      (hlength.imp_right And.right)

/-! ## Fields and years -/

/-- A text leads with blanks and a number of one or two digits within bounds. -/
def LeadsWithField (low high : Nat) (cs : List Char) (n : Nat) (rest : List Char) : Prop :=
  ∃ bs ds, cs = bs ++ ds ∧ (∀ c ∈ bs, Text.isBlank c = true) ∧ LeadsWith 2 ds n rest ∧
    low ≤ n ∧ n ≤ high

/-- A text leads with a number behind a sign, or with one of at most four digits. -/
inductive LeadsWithSigned : List Char → Int → List Char → Prop where
  | minus {cs : List Char} {n : Nat} {rest : List Char} (h : LeadsWith cs.length cs n rest) :
    LeadsWithSigned ('-' :: cs) (-n) rest
  | plus {cs : List Char} {n : Nat} {rest : List Char} (h : LeadsWith cs.length cs n rest) :
    LeadsWithSigned ('+' :: cs) n rest
  | plain {cs : List Char} {n : Nat} {rest : List Char} (h : LeadsWith 4 cs n rest) :
    LeadsWithSigned cs n rest

/-- A text leads with blanks and a year. -/
def LeadsWithYear (cs : List Char) (year : Int) (rest : List Char) : Prop :=
  ∃ bs ds, cs = bs ++ ds ∧ (∀ c ∈ bs, Text.isBlank c = true) ∧ LeadsWithSigned ds year rest

theorem exists_blanks (cs : List Char) :
    ∃ bs, cs = bs ++ Text.skipBlanks cs ∧ ∀ c ∈ bs, Text.isBlank c = true :=
  ⟨cs.takeWhile Text.isBlank, List.takeWhile_append_dropWhile.symm,
    fun _ hc => List.mem_takeWhile_imp hc⟩

theorem skipBlanks_of_visible {c : Char} (h : Text.isBlank c = false) (cs : List Char) :
    Text.skipBlanks (c :: cs) = c :: cs :=
  List.dropWhile_cons_of_neg (Bool.eq_false_iff.1 h)

theorem LeadsWith.skipBlanks (h : LeadsWith width cs n rest) : Text.skipBlanks cs = cs := by
  obtain ⟨ds, rfl, hne, hds, -⟩ := h
  exact skipBlanks_append hds hne

theorem LeadsWithSigned.skipBlanks (h : LeadsWithSigned cs year rest) :
    Text.skipBlanks cs = cs := by
  cases h with
  | minus h => exact skipBlanks_of_visible (by decide) _
  | plus h => exact skipBlanks_of_visible (by decide) _
  | plain h => exact h.skipBlanks

theorem readField_eq_ok_iff :
    readField low high cs = .ok (n, rest) ↔ LeadsWithField low high cs n rest := by
  unfold readField
  constructor
  · intro h
    obtain ⟨bs, hcs, hbs⟩ := exists_blanks cs
    cases hread : readNumber 2 (Text.skipBlanks cs) with
    | error e => simp [hread, bind, Except.bind] at h
    | ok r =>
      simp only [hread, bind, Except.bind] at h
      split at h
      · rename_i hbounds
        cases h
        exact ⟨bs, _, hcs, hbs, (readNumber_eq_ok_iff (by decide)).1 hread, hbounds⟩
      · cases h
  · rintro ⟨bs, ds, rfl, hbs, hds, hbounds⟩
    rw [Text.skipBlanks_blank_append hbs, hds.skipBlanks,
      (readNumber_eq_ok_iff (by decide)).2 hds]
    exact if_pos hbounds

/-- A number behind a sign. -/
theorem readNumber_length_eq_ok_iff :
    readNumber cs.length cs = .ok (n, rest) ↔ LeadsWith cs.length cs n rest := by
  cases cs with
  | nil =>
    constructor
    · nofun
    · rintro ⟨ds, hcs, hne, -⟩
      exact absurd (List.append_eq_nil_iff.1 hcs.symm).1 hne
  | cons c cs => exact readNumber_eq_ok_iff (Nat.succ_pos _)

theorem readSigned_eq_ok_iff :
    readSigned cs = .ok (year, rest) ↔ LeadsWithSigned cs year rest := by
  constructor
  · intro h
    unfold readSigned at h
    split at h
    · obtain ⟨⟨n, rest'⟩, hread, hr⟩ := map_eq_ok_iff.1 h
      cases hr
      exact .minus (readNumber_length_eq_ok_iff.1 hread)
    · obtain ⟨⟨n, rest'⟩, hread, hr⟩ := map_eq_ok_iff.1 h
      cases hr
      exact .plus (readNumber_length_eq_ok_iff.1 hread)
    · obtain ⟨⟨n, rest'⟩, hread, hr⟩ := map_eq_ok_iff.1 h
      cases hr
      exact .plain ((readNumber_eq_ok_iff (by decide)).1 hread)
  · intro h
    cases h with
    | minus h => exact map_eq_ok_iff.2 ⟨_, readNumber_length_eq_ok_iff.2 h, rfl⟩
    | plus h => exact map_eq_ok_iff.2 ⟨_, readNumber_length_eq_ok_iff.2 h, rfl⟩
    | plain h =>
      have hread := (readNumber_eq_ok_iff (by decide)).2 h
      obtain ⟨ds, rfl, hne, hds, -⟩ := h
      rw [readSigned_of_digits hds hne]
      exact map_eq_ok_iff.2 ⟨_, hread, rfl⟩

theorem readYear_eq_ok_iff (hlow : -0x80000000 ≤ year) (hhigh : year < 0x80000000) :
    readYear cs = .ok (year, rest) ↔ LeadsWithYear cs year rest := by
  unfold readYear
  constructor
  · intro h
    obtain ⟨bs, hcs, hbs⟩ := exists_blanks cs
    cases hread : readSigned (Text.skipBlanks cs) with
    | error e => simp [hread, bind, Except.bind] at h
    | ok r =>
      simp only [hread, bind, Except.bind] at h
      split at h
      · cases h
        exact ⟨bs, _, hcs, hbs, readSigned_eq_ok_iff.1 hread⟩
      · cases h
  · rintro ⟨bs, ds, rfl, hbs, hds⟩
    rw [Text.skipBlanks_blank_append hbs, hds.skipBlanks, readSigned_eq_ok_iff.2 hds]
    exact if_pos ⟨hlow, hhigh⟩

/-! ## Dates and times -/

theorem readMark_eq_ok_iff : readMark mark cs = .ok rest ↔ cs = mark :: rest := by
  cases cs with
  | nil => simp [readMark]
  | cons c cs =>
    rw [readMark]
    by_cases hc : c = mark <;> simp [hc]

/-- A text leads with year, month and day and a mark between them. -/
def LeadsWithParts (mark : Char) (cs : List Char) (year : Int) (month day : Nat)
    (rest : List Char) : Prop :=
  ∃ months days, LeadsWithYear cs year (mark :: months) ∧
    LeadsWithField 1 12 months month (mark :: days) ∧ LeadsWithField 1 31 days day rest

/-- A text leads with hours, minutes and seconds and colons between them. -/
def LeadsWithTime (cs rest : List Char) : Prop :=
  ∃ hours minutes seconds cs' cs'', LeadsWithField 0 23 cs hours (':' :: cs') ∧
    LeadsWithField 0 59 cs' minutes (':' :: cs'') ∧ LeadsWithField 0 60 cs'' seconds rest

theorem readParts_eq_ok_iff (hlow : -0x80000000 ≤ year) (hhigh : year < 0x80000000) :
    readParts mark cs = .ok ((year, month, day), rest) ↔
      LeadsWithParts mark cs year month day rest := by
  unfold readParts
  simp only [bind_eq_ok_iff, readMark_eq_ok_iff, Prod.exists]
  constructor
  · rintro ⟨y, rest₁, hyear, rest₂, rfl, m, rest₃, hmonth, rest₄, rfl, d, rest₅, hday, hresult⟩
    cases hresult
    exact ⟨rest₂, rest₄, (readYear_eq_ok_iff hlow hhigh).1 hyear, readField_eq_ok_iff.1 hmonth,
      readField_eq_ok_iff.1 hday⟩
  · rintro ⟨months, days, hyear, hmonth, hday⟩
    exact ⟨_, _, (readYear_eq_ok_iff hlow hhigh).2 hyear, _, rfl, _, _,
      readField_eq_ok_iff.2 hmonth, _, rfl, _, _, readField_eq_ok_iff.2 hday, rfl⟩

theorem readTime_eq_ok_iff : readTime cs = .ok rest ↔ LeadsWithTime cs rest := by
  unfold readTime
  simp only [bind_eq_ok_iff, readMark_eq_ok_iff, Prod.exists]
  constructor
  · rintro ⟨h, rest₁, hhour, rest₂, rfl, m, rest₃, hminute, rest₄, rfl, s, rest₅, hsecond, hresult⟩
    cases hresult
    exact ⟨_, _, _, _, _, readField_eq_ok_iff.1 hhour, readField_eq_ok_iff.1 hminute,
      readField_eq_ok_iff.1 hsecond⟩
  · rintro ⟨h, m, s, rest₂, rest₄, hhour, hminute, hsecond⟩
    exact ⟨_, _, readField_eq_ok_iff.2 hhour, _, rfl, _, _, readField_eq_ok_iff.2 hminute, _, rfl,
      _, _, readField_eq_ok_iff.2 hsecond, rfl⟩

theorem readEnd_eq_ok_iff {u : Unit} : readEnd cs = .ok u ↔ cs = [] := by
  cases cs <;> simp [readEnd]

theorem toDate_eq_ok_iff {d : Date} :
    toDate year month day = .ok d ↔ d.year = year ∧ d.month = month ∧ d.day = day := by
  rw [← Date.of?_eq_some_iff]
  unfold toDate
  cases Date.of? year month day <;> simp

/-- The years of the calendar fit 32 bits. -/
theorem Date.year_bounds (d : Date) : -0x80000000 ≤ d.year ∧ d.year < 0x80000000 := by
  obtain ⟨hfirst, hlast, -⟩ := d.inCalendar
  unfold firstYear at hfirst
  unfold lastYear at hlast
  omega

/-- A text leads with a date. -/
def LeadsWithDate (mark : Char) (cs : List Char) (d : Date) (rest : List Char) : Prop :=
  LeadsWithParts mark cs d.year d.month d.day rest

theorem readParts_date_iff {d : Date} :
    readParts mark cs = .ok ((d.year, d.month, d.day), rest) ↔ LeadsWithDate mark cs d rest :=
  readParts_eq_ok_iff d.year_bounds.1 d.year_bounds.2

/-- **A text is read as a date** just if it spells that date. -/
theorem read_eq_ok_iff {d : Date} : Date.read mark cs = .ok d ↔ LeadsWithDate mark cs d [] := by
  rw [← readParts_date_iff]
  unfold Date.read
  simp only [bind_eq_ok_iff, readEnd_eq_ok_iff, Prod.exists]
  constructor
  · rintro ⟨y, m, n, rest, hparts, u, rfl, hdate⟩
    obtain ⟨rfl, rfl, rfl⟩ := toDate_eq_ok_iff.1 hdate
    exact hparts
  · intro hparts
    exact ⟨_, _, _, [], hparts, (), rfl, toDate_self d⟩

end SalesLedger.Calendar
