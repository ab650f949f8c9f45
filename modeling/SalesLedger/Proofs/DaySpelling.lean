import SalesLedger.Proofs.DateSpelling

/-!
# Which texts name a day

The five spellings of a day in a record, from a bare date to a moment with an offset, and the day
that each of them names: the one that is written, whatever the time and the offset.

* `readStrict_eq_ok_iff`: a moment in the strict spelling is read for its day.
* `NamesDay`: the five spellings, with no order among them.
* `NamesDay.unique`: no text names two days, so the order in which the spellings are tried does not
  matter.
* `ofRecordText?_eq_some_iff`: the day that is read is the one that is named.
-/

namespace SalesLedger.Calendar

variable {width low high n : Nat} {cs rest : List Char} {mark : Char}

/-! ## The strict spelling -/

/-- A text leads with exactly `width` digits. -/
def LeadsWithFixed (width : Nat) (cs : List Char) (n : Nat) (rest : List Char) : Prop :=
  ∃ ds, cs = ds ++ rest ∧ ds.length = width ∧ AreDigits ds ∧ Nat.ofDigitChars 10 ds 0 = n

/-- A text leads with hours, minutes and seconds of two digits each. -/
def LeadsWithClock (cs rest : List Char) : Prop :=
  ∃ hours minutes seconds cs' cs'', (LeadsWithFixed 2 cs hours (':' :: cs') ∧ hours ≤ 23) ∧
    (LeadsWithFixed 2 cs' minutes (':' :: cs'') ∧ minutes ≤ 59) ∧
    LeadsWithFixed 2 cs'' seconds rest ∧ seconds ≤ 60

/-- A text leads with parts of a second, or has none. -/
inductive LeadsWithFraction : List Char → List Char → Prop where
  | absent {cs : List Char} (h : ∀ c ∈ cs.head?, c ≠ '.') : LeadsWithFraction cs cs
  | digits {cs : List Char} {n : Nat} {rest : List Char} (h : LeadsWith cs.length cs n rest) :
    LeadsWithFraction ('.' :: cs) rest

/-- An offset from universal time: none, or hours and minutes behind a sign. The minus sign may be
a hyphen. -/
inductive IsOffset : List Char → Prop where
  | universal {c : Char} (h : c = 'Z' ∨ c = 'z') : IsOffset [c]
  | shifted {c : Char} {cs cs' : List Char} {hours minutes : Nat}
    (hsign : c = '+' ∨ c = '-' ∨ c.toNat = 0x2212)
    (hhours : LeadsWithFixed 2 cs hours (':' :: cs') ∧ hours ≤ 23)
    (hminutes : LeadsWithFixed 2 cs' minutes [] ∧ minutes ≤ 59) : IsOffset (c :: cs)

/-- A moment in the strict spelling: a date, a time of day and an offset, each number with all its
digits. The day is the one that is written. -/
def IsStrict (cs : List Char) (d : Date) : Prop :=
  ∃ (year : Nat) (months days clock fraction offset : List Char) (separator : Char),
    (LeadsWithFixed 4 cs year ('-' :: months) ∧ d.year = year) ∧
    LeadsWithFixed 2 months d.month ('-' :: days) ∧
    LeadsWithFixed 2 days d.day (separator :: clock) ∧
    (separator = 'T' ∨ separator = 't' ∨ separator = ' ') ∧
    LeadsWithClock clock fraction ∧ LeadsWithFraction fraction offset ∧ IsOffset offset

theorem LeadsWithFixed.lt (h : LeadsWithFixed width cs n rest) : n < 10 ^ width := by
  obtain ⟨ds, -, rfl, hds, rfl⟩ := h
  have hlt := ofDigitChars_lt hds 0
  omega

theorem readFixed_eq_ok_iff : readFixed width low high cs = .ok (n, rest) ↔
    LeadsWithFixed width cs n rest ∧ low ≤ n ∧ n ≤ high := by
  unfold readFixed
  dsimp only
  constructor
  · intro h
    split at h
    · rename_i hfield
      rw [List.all_eq_true] at hfield
      have hread : readDigits width 0 cs =
          (Nat.ofDigitChars 10 (cs.take width) 0, cs.drop width) := by
        have hdigits : readDigits width 0 (cs.take width ++ cs.drop width) = _ :=
          readDigits_append hfield.2 (Nat.le_of_eq hfield.1) (.inl hfield.1) 0
        rwa [List.take_append_drop] at hdigits
      rw [hread] at h
      dsimp only at h
      split at h
      · rename_i hbounds
        cases h
        exact ⟨⟨cs.take width, (List.take_append_drop width cs).symm, hfield.1, hfield.2, rfl⟩,
          hbounds⟩
      · cases h
    · cases h
  · rintro ⟨⟨ds, rfl, hlength, hds, rfl⟩, hbounds⟩
    have htake : (ds ++ rest).take width = ds := by rw [← hlength, List.take_left']; rfl
    rw [htake, if_pos ⟨hlength, List.all_eq_true.2 hds⟩,
      readDigits_append hds (Nat.le_of_eq hlength) (.inl hlength)]
    exact if_pos hbounds

theorem readFraction_eq_ok_iff : readFraction cs = .ok rest ↔ LeadsWithFraction cs rest := by
  unfold readFraction
  constructor
  · intro h
    split at h
    · obtain ⟨⟨n, rest'⟩, hread, hresult⟩ := bind_eq_ok_iff.1 h
      cases hresult
      exact .digits (readNumber_length_eq_ok_iff.1 hread)
    · rename_i hpoint
      cases h
      refine .absent ?_
      rintro c hc rfl
      obtain ⟨cs', rfl⟩ := List.head?_eq_some_iff.1 hc
      exact hpoint cs' rfl
  · intro h
    cases h with
    | absent h =>
      split
      · exact absurd rfl (h '.' rfl)
      · rfl
    | digits h => exact bind_eq_ok_iff.2 ⟨_, readNumber_length_eq_ok_iff.2 h, rfl⟩

theorem readOffset_eq_ok_nil_iff : readOffset cs = .ok [] ↔ IsOffset cs := by
  constructor
  · intro h
    unfold readOffset at h
    split at h
    · cases h
    rename_i c rest
    split at h
    · rename_i huniversal
      cases h
      exact .universal (by simpa using huniversal)
    · split at h
      · rename_i hsign
        simp only [bind_eq_ok_iff, readMark_eq_ok_iff, readFixed_eq_ok_iff, Prod.exists] at h
        obtain ⟨hours, _, ⟨hhours, hbounds⟩, cs', rfl, minutes, rest', ⟨hminutes, hbounds'⟩, hend⟩ :=
          h
        cases hend
        exact .shifted (by simpa [or_assoc] using hsign) ⟨hhours, hbounds.2⟩
          ⟨hminutes, hbounds'.2⟩
      · cases h
  · intro h
    cases h with
    | universal h =>
      rcases h with rfl | rfl <;> rfl
    | @shifted c cs cs' hours minutes hsign hhours hminutes =>
      have huniversal : (c == 'Z' || c == 'z') = false := by
        rcases hsign with rfl | rfl | hsign
        · rfl
        · rfl
        · rw [Bool.or_eq_false_iff, beq_eq_false_iff_ne, beq_eq_false_iff_ne]
          constructor <;> rintro rfl <;> exact absurd hsign (by decide)
      have hsign' : (c == '+' || c == '-' || c.toNat == 0x2212) = true := by
        simpa [or_assoc] using hsign
      unfold readOffset
      dsimp only
      rw [huniversal, hsign', if_neg Bool.false_ne_true, if_pos rfl]
      simp only [bind_eq_ok_iff, readMark_eq_ok_iff, readFixed_eq_ok_iff, Prod.exists]
      exact ⟨hours, _, ⟨hhours.1, Nat.zero_le _, hhours.2⟩, cs', rfl, minutes, [],
        ⟨hminutes.1, Nat.zero_le _, hminutes.2⟩, rfl⟩

theorem readSeparator_eq_ok_iff : readSeparator cs = .ok rest ↔
    ∃ c, cs = c :: rest ∧ (c = 'T' ∨ c = 't' ∨ c = ' ') := by
  cases cs with
  | nil => simp [readSeparator]
  | cons c cs =>
    rw [readSeparator]
    simp only [Bool.or_eq_true, beq_iff_eq, or_assoc, List.cons.injEq]
    constructor
    · intro h
      split at h
      · rename_i hc
        cases h
        exact ⟨c, ⟨rfl, rfl⟩, hc⟩
      · cases h
    · rintro ⟨_, ⟨rfl, rfl⟩, hc⟩
      exact if_pos hc

/-- **A moment in the strict spelling is read for its day.** -/
theorem readStrict_eq_ok_iff {d : Date} : readStrict cs = .ok d ↔ IsStrict cs d := by
  unfold readStrict
  simp only [bind_eq_ok_iff, readFixed_eq_ok_iff, readMark_eq_ok_iff, readSeparator_eq_ok_iff,
    readFraction_eq_ok_iff, readEnd_eq_ok_iff, toDate_eq_ok_iff, Prod.exists]
  constructor
  · rintro ⟨year, _, ⟨hyear, -⟩, months, rfl, month, _, ⟨hmonth, -⟩, days, rfl, day, _, ⟨hday, -⟩,
      clock, ⟨separator, rfl, hseparator⟩, hours, _, ⟨hhours, -, hhours'⟩, cs', rfl, minutes, _,
      ⟨hminutes, -, hminutes'⟩, cs'', rfl, seconds, fraction, ⟨hseconds, -, hseconds'⟩, offset,
      hfraction, _, hoffset, -, rfl, hdate, rfl, rfl⟩
    exact ⟨year, months, days, clock, fraction, offset, separator, ⟨hyear, hdate⟩, hmonth, hday,
      hseparator, ⟨hours, minutes, seconds, cs', cs'', ⟨hhours, hhours'⟩, ⟨hminutes, hminutes'⟩,
      hseconds, hseconds'⟩, hfraction, readOffset_eq_ok_nil_iff.1 hoffset⟩
  · rintro ⟨year, months, days, clock, fraction, offset, separator, ⟨hyear, hdate⟩, hmonth, hday,
      hseparator, ⟨hours, minutes, seconds, cs', cs'', hhours, hminutes, hseconds⟩, hfraction,
      hoffset⟩
    obtain ⟨-, -, hone, htwelve, hfirst, hlast⟩ := d.inCalendar
    have hdays := Nat.le_trans hlast (Date.daysInMonth_le d.year d.month)
    exact ⟨year, _, ⟨hyear, Nat.zero_le _, Nat.le_of_lt_succ hyear.lt⟩, months, rfl, d.month, _,
      ⟨hmonth, hone, htwelve⟩, days, rfl, d.day, _, ⟨hday, hfirst, hdays⟩, clock,
      ⟨separator, rfl, hseparator⟩, hours, _, ⟨hhours.1, Nat.zero_le _, hhours.2⟩, cs', rfl,
      minutes, _, ⟨hminutes.1, Nat.zero_le _, hminutes.2⟩, cs'', rfl, seconds, fraction,
      ⟨hseconds.1, Nat.zero_le _, hseconds.2⟩, offset, hfraction, [],
      readOffset_eq_ok_nil_iff.2 hoffset, (), rfl, hdate, rfl, rfl⟩

/-! ## The spellings of a day -/

/-- The five spellings of a day: with hyphens, with slashes, with a time of day behind it, which a
`T` may mark, and the strict one. -/
inductive NamesDay (cs : List Char) (d : Date) : Prop where
  | hyphens (h : LeadsWithDate '-' cs d [])
  | slashes (h : LeadsWithDate '/' cs d [])
  | time {time : List Char} (h : LeadsWithDate '-' cs d time) (htime : LeadsWithTime time [])
  | marked {time : List Char} (h : LeadsWithDate '-' cs d ('T' :: time))
    (htime : LeadsWithTime time [])
  | strict (h : IsStrict cs d)

theorem readDateTime_eq_ok_iff {separator : List Char → Except DateFault (List Char)} {d : Date} :
    readDateTime separator cs = .ok d ↔ ∃ rest time, LeadsWithDate '-' cs d rest ∧
      separator rest = .ok time ∧ LeadsWithTime time [] := by
  unfold readDateTime
  simp only [← readParts_date_iff, bind_eq_ok_iff, readTime_eq_ok_iff, readEnd_eq_ok_iff,
    toDate_eq_ok_iff, Prod.exists]
  constructor
  · rintro ⟨y, m, n, rest, hparts, time, hseparator, _, htime, -, rfl, rfl, rfl, rfl⟩
    exact ⟨rest, time, hparts, hseparator, htime⟩
  · rintro ⟨rest, time, hparts, hseparator, htime⟩
    exact ⟨_, _, _, rest, hparts, time, hseparator, [], htime, (), rfl, rfl, rfl, rfl⟩

theorem skipBlanks_idem (cs : List Char) :
    Text.skipBlanks (Text.skipBlanks cs) = Text.skipBlanks cs := by
  obtain ⟨bs, hcs, hbs⟩ := exists_blanks cs
  rw [← Text.skipBlanks_blank_append hbs, ← hcs]

/-- Blanks before a time of day belong to it. -/
theorem leadsWithTime_skipBlanks :
    LeadsWithTime (Text.skipBlanks cs) rest ↔ LeadsWithTime cs rest := by
  rw [← readTime_eq_ok_iff, ← readTime_eq_ok_iff, readTime, readTime, readField, readField,
    skipBlanks_idem]

theorem LeadsWithFixed.leadsWith (h : LeadsWithFixed width cs n rest) (hwidth : 0 < width) :
    LeadsWith width cs n rest := by
  obtain ⟨ds, rfl, hlength, hds, rfl⟩ := h
  exact ⟨ds, rfl, List.ne_nil_of_length_pos (hlength ▸ hwidth), hds, rfl, .inl hlength⟩

theorem LeadsWithFixed.leadsWithField (h : LeadsWithFixed 2 cs n rest) (hlow : low ≤ n)
    (hhigh : n ≤ high) : LeadsWithField low high cs n rest :=
  ⟨[], cs, rfl, nofun, h.leadsWith (by decide), hlow, hhigh⟩

theorem IsStrict.leadsWithDate {d : Date} (h : IsStrict cs d) :
    ∃ rest, LeadsWithDate '-' cs d rest := by
  obtain ⟨year, months, days, clock, -, -, separator, ⟨hyear, hdate⟩, hmonth, hday, -⟩ := h
  obtain ⟨-, -, hone, htwelve, hfirst, hlast⟩ := d.inCalendar
  refine ⟨_, months, days, ⟨[], cs, rfl, nofun, ?_⟩, hmonth.leadsWithField hone htwelve,
    hday.leadsWithField hfirst (Nat.le_trans hlast (Date.daysInMonth_le d.year d.month))⟩
  rw [hdate]
  exact .plain (hyear.leadsWith (by decide))

/-- Every spelling begins with the day that it names. -/
theorem NamesDay.leadsWithDate {d : Date} (h : NamesDay cs d) :
    ∃ mark rest, LeadsWithDate mark cs d rest := by
  cases h with
  | hyphens h => exact ⟨_, _, h⟩
  | slashes h => exact ⟨_, _, h⟩
  | time h htime => exact ⟨_, _, h⟩
  | marked h htime => exact ⟨_, _, h⟩
  | strict h => exact ⟨_, h.leadsWithDate⟩

/-- A text leads with one date, whatever mark is in it: the mark is what follows the year. -/
theorem LeadsWithDate.unique {mark' : Char} {rest' : List Char} {d d' : Date}
    (h : LeadsWithDate mark cs d rest) (h' : LeadsWithDate mark' cs d' rest') : d = d' := by
  have hparts := readParts_date_iff.2 h
  have hparts' := readParts_date_iff.2 h'
  obtain ⟨months, days, hyear, -⟩ := h
  obtain ⟨months', days', hyear', -⟩ := h'
  have hread := (readYear_eq_ok_iff d.year_bounds.1 d.year_bounds.2).2 hyear
  rw [(readYear_eq_ok_iff d'.year_bounds.1 d'.year_bounds.2).2 hyear'] at hread
  simp only [Except.ok.injEq, Prod.mk.injEq, List.cons.injEq] at hread
  obtain rfl := hread.2.1
  rw [hparts'] at hparts
  have hdate := toDate_self d
  simp only [Except.ok.injEq, Prod.mk.injEq] at hparts
  obtain ⟨⟨hyears, hmonths, hdays⟩, -⟩ := hparts
  rw [← hyears, ← hmonths, ← hdays, toDate_self] at hdate
  exact (Except.ok.inj hdate).symm

/-- **No text names two days**, by whichever spellings. -/
theorem NamesDay.unique {d d' : Date} (h : NamesDay cs d) (h' : NamesDay cs d') : d = d' := by
  obtain ⟨mark, rest, hdate⟩ := h.leadsWithDate
  obtain ⟨mark', rest', hdate'⟩ := h'.leadsWithDate
  exact hdate.unique hdate'

/-- The spellings that are tried are those that name a day. -/
theorem exists_spelling_iff {d : Date} :
    (∃ read ∈ recordSpellings, read cs = .ok d) ↔ NamesDay cs d := by
  unfold recordSpellings
  simp only [List.mem_cons, List.not_mem_nil, or_false, exists_eq_or_imp, exists_eq_left,
    read_eq_ok_iff, readDateTime_eq_ok_iff, readStrict_eq_ok_iff, readMark_eq_ok_iff,
    Except.ok.injEq]
  constructor
  · rintro (h | h | ⟨rest, _, h, rfl, htime⟩ | ⟨_, time, h, rfl, htime⟩ | h)
    · exact .hyphens h
    · exact .slashes h
    · exact .time h (leadsWithTime_skipBlanks.1 htime)
    · exact .marked h htime
    · exact .strict h
  · intro h
    cases h with
    | hyphens h => exact .inl h
    | slashes h => exact .inr (.inl h)
    | time h htime => exact .inr (.inr (.inl ⟨_, _, h, rfl, leadsWithTime_skipBlanks.2 htime⟩))
    | marked h htime => exact .inr (.inr (.inr (.inl ⟨_, _, h, rfl, htime⟩)))
    | strict h => exact .inr (.inr (.inr (.inr h)))

theorem toOption_eq_some_iff {α : Type} {x : Except DateFault α} {a : α} :
    x.toOption = some a ↔ x = .ok a := by
  cases x <;> simp [Except.toOption]

/-- **The day that is read is the one that is named.** -/
theorem ofRecordText?_eq_some_iff {s : String} {d : Date} :
    Date.ofRecordText? s = some d ↔ NamesDay (Text.trim s).toList d := by
  unfold Date.ofRecordText?
  rw [← exists_spelling_iff]
  constructor
  · intro h
    obtain ⟨read, hmem, hread⟩ := List.exists_of_findSome?_eq_some h
    exact ⟨read, hmem, toOption_eq_some_iff.1 hread⟩
  · rintro ⟨read, hmem, hread⟩
    -- some spelling is found, and no other day is named
    cases hfound : recordSpellings.findSome? fun read =>
        (read (Text.trim s).toList).toOption with
    | none =>
      have hnone := List.findSome?_eq_none_iff.1 hfound read hmem
      rw [hread] at hnone
      cases hnone
    | some d' =>
      obtain ⟨read', hmem', hread'⟩ := List.exists_of_findSome?_eq_some hfound
      have hday := exists_spelling_iff.1 ⟨read, hmem, hread⟩
      have hday' := exists_spelling_iff.1 ⟨read', hmem', toOption_eq_some_iff.1 hread'⟩
      rw [hday.unique hday']

end SalesLedger.Calendar
