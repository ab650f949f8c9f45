import SalesLedger.Proofs.MomentReading
import SalesLedger.Proofs.RoundTrip

/-!
# The sales of this year

A question for the year to date compares two texts: the year of a sale's date, which a database
writes with four digits, and the year of the day, which is written without zeros in front. From the
year 1000 on they are one text where the years are one, and earlier they never are. So an analysis
for the year to date has the sales of the year if the year has four digits, and none otherwise:
`yearToDate_returns`.

* `padded_eq_toDigits_iff`: a number with zeros in front is the number without them only if it needs
  none.
* `meets_year`: what the condition of a year means for a sale.
-/

namespace SalesLedger

open Storage Sql Ledger

/-! ## Years as texts -/

/-- **A number fills as many digits as it is written with**, or it has zeros in front. -/
theorem Calendar.padded_eq_toDigits_iff {width m n : Nat} (hwidth : 1 < width)
    (hn : n < 10 ^ width) :
    padded width m = Nat.toDigits 10 n ↔ m = n ∧ 10 ^ (width - 1) ≤ n := by
  have hdigits : (Nat.toDigits 10 n).length ≤ width - 1 ↔ n < 10 ^ (width - 1) :=
    Nat.length_toDigits_le_iff (by decide) (by omega)
  constructor
  · intro h
    have hvalue : m = n := by
      rw [← ofDigitChars_padded width m, h, Nat.ofDigitChars_ten_toDigits]
    subst hvalue
    refine ⟨rfl, Nat.not_lt.1 fun hshort => ?_⟩
    have hlength := length_padded (by omega) hn
    rw [h] at hlength
    have hless := hdigits.2 hshort
    omega
  · rintro ⟨rfl, hfull⟩
    have hlength : width ≤ (Nat.toDigits 10 m).length := by
      have hmore := mt hdigits.1 (Nat.not_lt.2 hfull)
      omega
    rw [padded, Nat.sub_eq_zero_of_le hlength, List.replicate_zero, List.nil_append]

/-- The year that a database writes for a date is another one's number where both are one year of
four digits. -/
theorem Sql.Moment.yearText_eq_iff {y y' : Int} (hy : 0 ≤ y) (hy' : 0 ≤ y') (hlast : y' ≤ 9999) :
    yearText y = toString y' ↔ y = y' ∧ 1000 ≤ y' := by
  obtain ⟨m, rfl⟩ := Int.eq_ofNat_of_zero_le hy
  obtain ⟨n, rfl⟩ := Int.eq_ofNat_of_zero_le hy'
  have htext : toString (n : Int) = String.ofList (Nat.toDigits 10 n) := by
    rw [← Nat.toList_repr, String.ofList_toList]
    rfl
  have hdigits := Calendar.padded_eq_toDigits_iff (m := m) (show 1 < 4 by decide)
    (show n < 10 ^ 4 by omega)
  rw [yearText, paddedChars_natCast, htext, String.ofList_inj, hdigits]
  omega

/-- Texts are compared as they are where no column is. -/
theorem Sql.compare_texts (a b : String) :
    compare .blob .binary .equal (.text a) (.text b) = some (decide (a = b)) := by
  have hkey : (Cell.text a).key = (Cell.text b).key ↔ a = b :=
    ⟨fun h => (Cell.Key.text.inj h).1, fun h => by rw [h]⟩
  unfold compare
  rw [if_neg (by simp)]
  show some (decide ((Cell.text a).key = (Cell.text b).key)) = _
  rw [decide_eq_decide.2 hkey]

/-- **A sale meets the condition of a year** where its date is of that year, and the year has four
digits. -/
theorem Sale.meets_year (s : Sale) (hdate : s.date.HasPlainYear) {year : Int} (hyear : 0 ≤ year)
    (hyear' : year ≤ 9999) : s.meets (Query.windowCondition (.year year)) =
      decide (s.date.year = year ∧ 1000 ≤ year) := by
  have hcell : emptyLedger.cell ⟨0, s.cells⟩ Query.dateColumn = .text s.date.text := rfl
  unfold Sale.meets Ledger.meets Query.windowCondition
  dsimp only
  unfold Condition.holds
  dsimp only
  rw [hcell, Moment.dayOfCell?_text hdate]
  dsimp only
  rw [compare_texts, decide_eq_decide, Option.some.injEq, decide_eq_true_eq,
    Moment.yearText_eq_iff hdate.1 hyear hyear']

namespace Query

/-- The question for the sales of a period as they are. -/
def ofPeriod (token : String) : ParameterSet where
  xAxis := none
  yAxis := none
  aggregation := .none
  filterColumn := none
  filterValue := none
  sortBy := none
  sortOrder := .descending
  limit := none
  timePeriod := some token

/-- Of the year to date are the sales of a year of four digits. -/
theorem filter_yearToDate {token : String} (hparse : Calendar.Period.parse token = .ok .yearToDate)
    {today : Calendar.Date} (htoday : today.HasPlainYear) {sales : List Sale}
    (hdates : ∀ sale ∈ sales, sale.date.HasPlainYear) :
    (sales.filter fun sale =>
      (conditions (ofPeriod token) ⟨Sale.columns⟩ today).all sale.meets) =
      if 1000 ≤ today.year then sales.filter (·.date.year = today.year) else [] := by
  have hcondition : conditions (ofPeriod token) ⟨Sale.columns⟩ today =
      [windowCondition (.year today.year)] := by
    unfold conditions Calendar.resolveWindow?
    rw [show (ofPeriod token).timePeriod = some token from rfl, Option.bind_some, hparse]
    rfl
  have hmeets : ∀ sale ∈ sales, (conditions (ofPeriod token) ⟨Sale.columns⟩ today).all sale.meets =
      decide (sale.date.year = today.year ∧ 1000 ≤ today.year) := fun sale hsale => by
    rw [hcondition, List.all_cons, List.all_nil, Bool.and_true,
      sale.meets_year (hdates sale hsale) htoday.1 htoday.2]
  rw [List.filter_congr hmeets]
  split
  · rename_i hfull
    simp only [hfull, and_true]
  · rename_i hshort
    simp only [hshort, and_false, decide_false, List.filter_false]

end Query

namespace Service

open Query History

/-- **The sales of this year come back**, if the year is written with four digits. After any run of
operations, an analysis for the year to date has the sales whose dates are of the day's year, in the
order in which they were appended; on a day of the years 0 to 999 it has none, whatever was sold. -/
theorem yearToDate_returns {config : Config} {d₀ : Disk} (h : Begins config d₀)
    (hworking : d₀.isDirectory d₀.working = true) (steps : List Step) (t : Tenant)
    (hpath : Store.HasShortPath config t) :
    ∃ landed, ((history config d₀ steps).filter Event.succeeded).Sublist landed ∧
      landed.Sublist (history config d₀ steps) ∧
      ∀ (today : Calendar.Date) (token : String),
        Calendar.Period.parse token = .ok .yearToDate → today.HasPlainYear →
        (∀ sale ∈ landed.flatMap (Event.batch t), sale.date.HasPlainYear) →
        analysis config (after config d₀ steps) today t (ofPeriod token) =
          if 1000 ≤ today.year then
            ((landed.flatMap (Event.batch t)).filter (·.date.year = today.year)).map Sale.fields
          else [] := by
  obtain ⟨landed, hok, hlanded, hledger, hreadable⟩ := exists_readable h hworking steps hpath
  refine ⟨landed, hok, hlanded, fun today token hparse htoday hdates => ?_⟩
  generalize landed.flatMap (Event.batch t) = sales at *
  generalize after config d₀ steps = d at *
  by_cases hcolumns : (Store.schema config d t).columns = []
  · obtain rfl := hreadable hcolumns
    rw [analysis_of_no_columns h.directory hledger hcolumns]
    simp
  · rw [analysis_of_whole h.directory hledger hcolumns rfl rfl rfl,
      filter_yearToDate hparse htoday hdates]
    split
    · rfl
    · rfl

/-- Rice that was sold more than a thousand years before the oil. -/
def ancientRice : Sale := { rice with date := ⟨999, 1, 10, by decide⟩ }
def ancientDay : Calendar.Date := ⟨999, 6, 15, by decide⟩

/-- The oil comes back in its year, and the rice does not in its own. -/
theorem yearToDate_returns_ancientRice :
    analysis shop (after shop blank [⟨.record vendor [ancientRice, oil], []⟩]) marketDay vendor
        (ofPeriod "ytd") = [oil.fields] ∧
      analysis shop (after shop blank [⟨.record vendor [ancientRice, oil], []⟩]) ancientDay vendor
        (ofPeriod " YTD ") = [] := by
  obtain ⟨landed, hok, hlanded, hreturns⟩ := yearToDate_returns begins_blank (by decide)
    [⟨.record vendor [ancientRice, oil], []⟩] vendor hasShortPath_vendor
  have hsales : landed.flatMap (Event.batch vendor) = [ancientRice, oil] := by
    rw [eq_of_succeeded hok hlanded (by decide +kernel)]
    rfl
  rw [hsales] at hreturns
  have hdates : ∀ sale ∈ [ancientRice, oil], sale.date.HasPlainYear := by
    unfold Calendar.Date.HasPlainYear
    decide
  have hfiltered : [ancientRice, oil].filter (·.date.year = marketDay.year) = [oil] := by decide
  refine ⟨?_, ?_⟩
  · have hmodern := hreturns marketDay "ytd" (by decide) ⟨by decide, by decide⟩ hdates
    rw [if_pos (by decide), hfiltered] at hmodern
    exact hmodern
  · have hancient := hreturns ancientDay " YTD " (by decide +kernel) ⟨by decide, by decide⟩ hdates
    rw [if_neg (by decide)] at hancient
    exact hancient

end Service

end SalesLedger
