import Mathlib.Algebra.Group.Nat.Defs
import SalesLedger.Calendar.Timestamp

/-!
# Reading dates that were written

A date reads back from its text, whatever its year: `read_text`, and `ofRecordText?_text` for the
texts of records. The text is three rows of digits with hyphens between them, and each reader takes
exactly its row:

* `decimal?_eq_some_iff`: what a row of digits spells.
* `readNumber_append`: a number is read up to the first character that is no digit, as long as the
  reader is wide enough.
* `readYear_append`, `readField_append`: a year with or without a sign; a month or a day.
-/

namespace SalesLedger.Calendar

/-! ## Digits -/

/-- A row of digits. -/
def AreDigits (cs : List Char) : Prop :=
  ∀ c ∈ cs, Text.isDigit c = true

theorem toNat_of_isDigit {c : Char} (h : Text.isDigit c = true) :
    0x30 ≤ c.toNat ∧ c.toNat ≤ 0x39 := by
  unfold Text.isDigit Text.digit? at h
  split at h
  · assumption
  · cases h

theorem isBlank_of_isDigit {c : Char} (h : Text.isDigit c = true) : Text.isBlank c = false := by
  have hrange := toNat_of_isDigit h
  rw [Bool.eq_false_iff]
  intro hblank
  simp only [Text.isBlank, Bool.or_eq_true, Bool.and_eq_true, decide_eq_true_eq, beq_iff_eq]
    at hblank
  omega

theorem digit?_of_isDigit {c : Char} (h : Text.isDigit c = true) :
    Text.digit? c = some (c.toNat - '0'.toNat) := by
  unfold Text.digit?
  rw [if_pos (toNat_of_isDigit h)]
  rfl

theorem areDigits_toDigits (n : Nat) : AreDigits (Nat.toDigits 10 n) := by
  intro c hc
  have hdigit := Nat.isDigit_of_mem_toDigits (by decide) (by decide) hc
  rw [Char.isDigit, Bool.and_eq_true, decide_eq_true_eq, decide_eq_true_eq] at hdigit
  have hrange : 0x30 ≤ c.toNat ∧ c.toNat ≤ 0x39 := ⟨hdigit.1, hdigit.2⟩
  rw [Text.isDigit, Text.digit?, if_pos hrange]
  rfl

theorem areDigits_append {ds fs : List Char} (hds : AreDigits ds) (hfs : AreDigits fs) :
    AreDigits (ds ++ fs) := by
  intro c hc
  rcases List.mem_append.1 hc with hc | hc
  · exact hds c hc
  · exact hfs c hc

theorem areDigits_replicate (k : Nat) : AreDigits (List.replicate k '0') := by
  intro c hc
  rw [List.eq_of_mem_replicate hc]
  rfl

theorem areDigits_padded (width n : Nat) : AreDigits (padded width n) :=
  areDigits_append (areDigits_replicate _) (areDigits_toDigits n)

theorem ofDigitChars_lt {ds : List Char} (hds : AreDigits ds) (n : Nat) :
    Nat.ofDigitChars 10 ds n < 10 ^ ds.length * (n + 1) := by
  induction ds generalizing n with
  | nil =>
    rw [Nat.ofDigitChars_nil, List.length_nil]
    omega
  | cons d ds ih =>
    have hd := toNat_of_isDigit (hds d List.mem_cons_self)
    rw [Nat.ofDigitChars_cons, List.length_cons, Nat.pow_succ, Nat.mul_assoc]
    refine Nat.lt_of_lt_of_le (ih (fun c hc => hds c (List.mem_cons_of_mem _ hc)) _)
      (Nat.mul_le_mul_left _ ?_)
    rw [show '0'.toNat = 0x30 from rfl]
    omega

theorem padded_ne_nil (width n : Nat) : padded width n ≠ [] := by
  intro h
  exact Nat.toDigits_ne_nil (List.append_eq_nil_iff.1 h).2

theorem length_padded {width n : Nat} (hwidth : 0 < width) (h : n < 10 ^ width) :
    (padded width n).length = width := by
  have hdigits := (Nat.length_toDigits_le_iff (by decide : 1 < 10) hwidth).2 h
  rw [padded, List.length_append, List.length_replicate]
  omega

theorem ofDigitChars_padded (width n : Nat) : Nat.ofDigitChars 10 (padded width n) 0 = n := by
  rw [padded, Nat.ofDigitChars_append, Nat.ofDigitChars_replicate_zero, Nat.mul_zero,
    Nat.ofDigitChars_ten_toDigits]

/-! ## Numbers -/

theorem decimalFrom?_digits {ds : List Char} (hds : AreDigits ds) (n : Nat) :
    Text.decimalFrom? n ds = some (Nat.ofDigitChars 10 ds n) := by
  induction ds generalizing n with
  | nil => rw [Text.decimalFrom?, Nat.ofDigitChars_nil]
  | cons d ds ih =>
    rw [Text.decimalFrom?, digit?_of_isDigit (hds d List.mem_cons_self)]
    dsimp only
    rw [ih fun c hc => hds c (List.mem_cons_of_mem _ hc), Nat.ofDigitChars_cons, Nat.mul_comm]

theorem areDigits_of_decimalFrom? {ds : List Char} {m n : Nat}
    (h : Text.decimalFrom? m ds = some n) : AreDigits ds := by
  induction ds generalizing m with
  | nil => exact nofun
  | cons d ds ih =>
    rw [Text.decimalFrom?] at h
    cases hd : Text.digit? d with
    | none => simp [hd] at h
    | some value =>
      rw [hd] at h
      rintro c (_ | ⟨_, hc⟩)
      · rw [Text.isDigit, hd, Option.isSome_some]
      · exact ih h c hc

/-- **A number is read from the rows of digits that spell it**, and from nothing else. -/
theorem decimal?_eq_some_iff {ds : List Char} {n : Nat} : Text.decimal? ds = some n ↔
    ds ≠ [] ∧ AreDigits ds ∧ Nat.ofDigitChars 10 ds 0 = n := by
  cases ds with
  | nil => simp [Text.decimal?]
  | cons d ds =>
    rw [Text.decimal?]
    constructor
    · intro h
      have hdigits := areDigits_of_decimalFrom? h
      rw [decimalFrom?_digits hdigits] at h
      exact ⟨List.cons_ne_nil d ds, hdigits, Option.some.inj h⟩
    · rintro ⟨-, hdigits, rfl⟩
      exact decimalFrom?_digits hdigits 0

/-- **A reader takes a row of digits** that it is wide enough for, and stops behind it. -/
theorem readDigits_append {ds rest : List Char} {width : Nat} (hds : AreDigits ds)
    (hwidth : ds.length ≤ width)
    (hrest : ds.length = width ∨ ∀ c ∈ rest.head?, Text.isDigit c = false) (n : Nat) :
    readDigits width n (ds ++ rest) = (Nat.ofDigitChars 10 ds n, rest) := by
  induction ds generalizing n width with
  | nil =>
    rw [Nat.ofDigitChars_nil, List.nil_append]
    cases width with
    | zero => rfl
    | succ width =>
      cases rest with
      | nil => rfl
      | cons c rest =>
        have hc : Text.isDigit c = false := by
          rcases hrest with hlength | hrest
          · cases hlength
          · exact hrest c rfl
        have hnone : Text.digit? c = none := by
          rw [Text.isDigit, Option.isSome_eq_false_iff, Option.isNone_iff_eq_none] at hc
          exact hc
        rw [readDigits, hnone]
  | cons d ds ih =>
    cases width with
    | zero => cases hwidth
    | succ width =>
      rw [List.cons_append, readDigits, digit?_of_isDigit (hds d List.mem_cons_self)]
      dsimp only
      rw [ih (fun c hc => hds c (List.mem_cons_of_mem _ hc)) (Nat.le_of_succ_le_succ hwidth)
        (hrest.imp_left Nat.succ.inj), Nat.ofDigitChars_cons, Nat.mul_comm]

theorem readNumber_append {ds rest : List Char} {width : Nat} (hds : AreDigits ds) (hne : ds ≠ [])
    (hwidth : ds.length ≤ width)
    (hrest : ds.length = width ∨ ∀ c ∈ rest.head?, Text.isDigit c = false) :
    readNumber width (ds ++ rest) = .ok (Nat.ofDigitChars 10 ds 0, rest) := by
  have hread := readDigits_append hds hwidth hrest 0
  cases ds with
  | nil => exact absurd rfl hne
  | cons d ds =>
    rw [List.cons_append] at hread ⊢
    rw [readNumber, digit?_of_isDigit (hds d List.mem_cons_self)]
    dsimp only
    rw [hread]

/-- Nothing is skipped before a digit. -/
theorem skipBlanks_append {ds rest : List Char} (hds : AreDigits ds) (hne : ds ≠ []) :
    Text.skipBlanks (ds ++ rest) = ds ++ rest := by
  cases ds with
  | nil => exact absurd rfl hne
  | cons d ds =>
    have hblank : ¬ Text.isBlank d = true :=
      Bool.eq_false_iff.1 (isBlank_of_isDigit (hds d List.mem_cons_self))
    rw [List.cons_append, Text.skipBlanks, List.dropWhile_cons_of_neg hblank]

/-- A month or a day of two digits is read. -/
theorem readField_append {low high n : Nat} (hlow : low ≤ n) (hhigh : n ≤ high) (h : n < 100)
    (rest : List Char) : readField low high (padded 2 n ++ rest) = .ok (n, rest) := by
  have hds := areDigits_padded 2 n
  have hne := padded_ne_nil 2 n
  have hlength := length_padded (by decide : 0 < 2) h
  unfold readField
  rw [skipBlanks_append hds hne,
    readNumber_append hds hne (Nat.le_of_eq hlength) (.inl hlength), ofDigitChars_padded]
  exact if_pos ⟨hlow, hhigh⟩

/-! ## Years -/

/-- What follows a year. -/
theorem head_hyphen (rest : List Char) :
    ∀ c ∈ (('-' : Char) :: rest).head?, Text.isDigit c = false := by
  intro c hc
  obtain rfl : '-' = c := Option.some.inj hc
  decide

theorem readNumber_year (n : Nat) (rest : List Char) :
    readNumber (padded 4 n ++ '-' :: rest).length (padded 4 n ++ '-' :: rest) =
      .ok (n, '-' :: rest) := by
  have hlength : (padded 4 n).length ≤ (padded 4 n ++ '-' :: rest).length := by
    rw [List.length_append]
    omega
  rw [readNumber_append (areDigits_padded 4 n) (padded_ne_nil 4 n) hlength
    (.inr (head_hyphen rest)), ofDigitChars_padded]

/-- A digit is no sign. -/
theorem readSigned_of_digits {ds rest : List Char} (hds : AreDigits ds) (hne : ds ≠ []) :
    readSigned (ds ++ rest) = (readNumber 4 (ds ++ rest)).map fun r => ((r.1 : Int), r.2) := by
  obtain ⟨d, ds, rfl⟩ := List.exists_cons_of_ne_nil hne
  have hd := hds d List.mem_cons_self
  rw [List.cons_append]
  unfold readSigned
  split
  · rename_i heq
    obtain ⟨rfl, -⟩ := List.cons.inj heq
    exact absurd hd (by decide)
  · rename_i heq
    obtain ⟨rfl, -⟩ := List.cons.inj heq
    exact absurd hd (by decide)
  · rfl

theorem readSigned_append (year : Int) (rest : List Char) :
    readSigned (yearChars year ++ '-' :: rest) = .ok (year, '-' :: rest) := by
  unfold yearChars
  split
  · have hyear : -((year.natAbs : Nat) : Int) = year := by omega
    show (readNumber (padded 4 year.natAbs ++ '-' :: rest).length
      (padded 4 year.natAbs ++ '-' :: rest)).map _ = _
    rw [readNumber_year, Except.map, hyear]
  · have hyear : ((year.natAbs : Nat) : Int) = year := by omega
    split
    · show (readNumber (padded 4 year.natAbs ++ '-' :: rest).length
        (padded 4 year.natAbs ++ '-' :: rest)).map _ = _
      rw [readNumber_year, Except.map, hyear]
    · have hds := areDigits_padded 4 year.natAbs
      have hne := padded_ne_nil 4 year.natAbs
      have hlength := length_padded (by decide : 0 < 4) (by omega : year.natAbs < 10 ^ 4)
      rw [readSigned_of_digits hds hne,
        readNumber_append hds hne (Nat.le_of_eq hlength) (.inl hlength), ofDigitChars_padded,
        Except.map, hyear]

theorem no_blank_yearChars (year : Int) : ∀ c ∈ yearChars year, Text.isBlank c = false := by
  have hpadded : ∀ c ∈ padded 4 year.natAbs, Text.isBlank c = false :=
    fun c hc => isBlank_of_isDigit (areDigits_padded _ _ c hc)
  intro c hc
  unfold yearChars at hc
  split at hc
  · rcases List.mem_cons.1 hc with rfl | hc
    · decide
    · exact hpadded c hc
  · split at hc
    · rcases List.mem_cons.1 hc with rfl | hc
      · decide
      · exact hpadded c hc
    · exact hpadded c hc

theorem yearChars_ne_nil (year : Int) : yearChars year ≠ [] := by
  unfold yearChars
  split
  · exact List.cons_ne_nil _ _
  · split
    · exact List.cons_ne_nil _ _
    · exact padded_ne_nil 4 _

/-- **A year that was written is read**, with the sign that it needs. -/
theorem readYear_append {year : Int} (hlow : -0x80000000 ≤ year) (hhigh : year < 0x80000000)
    (rest : List Char) : readYear (yearChars year ++ '-' :: rest) = .ok (year, '-' :: rest) := by
  have hskip : Text.skipBlanks (yearChars year ++ '-' :: rest) = yearChars year ++ '-' :: rest := by
    have hblank := no_blank_yearChars year
    obtain ⟨c, cs, hcons⟩ := List.exists_cons_of_ne_nil (yearChars_ne_nil year)
    rw [hcons] at hblank ⊢
    rw [List.cons_append, Text.skipBlanks,
      List.dropWhile_cons_of_neg (by simp [hblank c])]
  unfold readYear
  rw [hskip, readSigned_append]
  simp only [bind, Except.bind, pure, Except.pure]
  rw [if_pos ⟨hlow, hhigh⟩]

/-! ## Dates -/

theorem toDate_self (d : Date) : toDate d.year d.month d.day = .ok d := by
  unfold toDate
  rw [Date.of?_eq_some_iff.2 ⟨rfl, rfl, rfl⟩]

/-- The characters of a date. -/
theorem toList_text (d : Date) :
    d.text.toList = yearChars d.year ++ '-' :: (padded 2 d.month ++ '-' :: padded 2 d.day) := by
  rw [Date.text, String.toList_ofList, List.append_assoc]
  rfl

/-- **A date reads back from its text.** -/
theorem read_text (d : Date) : Date.read '-' d.text.toList = .ok d := by
  obtain ⟨hfirst, hlast, hmonth, hmonth', hday, hday'⟩ := d.inCalendar
  unfold firstYear at hfirst
  unfold lastYear at hlast
  have hdays := Date.daysInMonth_le d.year d.month
  have hfield := readField_append hday (Nat.le_trans hday' hdays) (by omega) []
  rw [List.append_nil] at hfield
  rw [toList_text]
  unfold Date.read readParts
  rw [readYear_append (by omega) (by omega)]
  simp only [bind, Except.bind, readMark, beq_self_eq_true, if_true,
    readField_append hmonth hmonth' (by omega), hfield, pure, Except.pure, readEnd,
    List.isEmpty_nil]
  exact toDate_self d

theorem no_blank_text (d : Date) : ∀ c ∈ d.text.toList, Text.isBlank c = false := by
  have hpadded : ∀ n, ∀ c ∈ '-' :: padded 2 n, Text.isBlank c = false := by
    intro n c hc
    rcases List.mem_cons.1 hc with rfl | hc
    · decide
    · exact isBlank_of_isDigit (areDigits_padded 2 n c hc)
  intro c hc
  rw [toList_text, ← List.cons_append] at hc
  rcases List.mem_append.1 hc with hc | hc
  · exact no_blank_yearChars d.year c hc
  rcases List.mem_append.1 hc with hc | hc
  · exact hpadded d.month c hc
  · exact hpadded d.day c hc

/-- **A record's date is the one whose text it has.** -/
theorem ofRecordText?_text (d : Date) : Date.ofRecordText? d.text = some d := by
  have htrim : Text.trim d.text = d.text := Text.trim_of_no_blank (no_blank_text d)
  unfold Date.ofRecordText? recordSpellings
  rw [htrim, List.findSome?_cons, read_text]
  rfl

end SalesLedger.Calendar
