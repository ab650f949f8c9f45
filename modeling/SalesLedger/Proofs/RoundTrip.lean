import SalesLedger.Proofs.Lasting
import SalesLedger.Proofs.WholeRows
import SalesLedger.Proofs.Windows

/-!
# Sales come back

What was appended is what an analysis without axes shows: the sales of the days of a period, or of
one item, in the order in which they were appended (`analysis_returns`). Everything on the way keeps
them: the batches land as a whole, the ledger can be read whenever it has sales, the dates are
compared as texts in their own order, and the fields come back as they were.

* `meets_window`, `meets_item`: what a condition of the question means for a sale.
* `conditions_meet`: the conditions of a question are met by the sales that it asks for.
-/

namespace SalesLedger

open Storage Sql Ledger

/-! ## Conditions -/

/-- A comparison of a sale's text with a text. -/
theorem Query.compares_text {c s v : String} {sale : Sale} (hc : c ∈ Sale.columns)
    (hcell : sale.cell c = .text s)
    (htext : emptyLedger.affinityAt (Sale.columns.idxOf c) = .text) (op : Comparison) :
    emptyLedger.compares ⟨0, sale.cells⟩ op c (.text v) = op.holds (.text s) (.text v) := by
  rw [Bool.eq_iff_iff, compares_sale hc, hcell, htext]
  simp [Affinity.turned, Affinity.textOf]

namespace Sale

/-- **A sale meets a window that has its day.** -/
theorem meets_window (s : Sale) (hdate : s.date.HasPlainYear) {w : Calendar.Window}
    (hw : w.HasPlainYears) : s.meets (Query.windowCondition w) = w.contains s.date := by
  cases w with
  | between start stop =>
    have hcompares : ∀ (op : Comparison) (d : Calendar.Date),
        emptyLedger.compares ⟨0, s.cells⟩ op Query.dateColumn (.text d.text) =
          op.holds (.text s.date.text) (.text d.text) := fun op d =>
      Query.compares_text (by decide) rfl rfl op
    show (emptyLedger.compares ⟨0, s.cells⟩ .atLeast Query.dateColumn (.text start.text) &&
      emptyLedger.compares ⟨0, s.cells⟩ .atMost Query.dateColumn (.text stop.text)) = _
    rw [hcompares, hcompares, Comparison.holds, Comparison.holds, Cell.text_le, Cell.text_le,
      Calendar.Window.contains, Bool.eq_iff_iff, Bool.and_eq_true, decide_eq_true_eq,
      decide_eq_true_eq, decide_eq_true_eq, Calendar.Date.text_le_iff hw.1 hdate,
      Calendar.Date.text_le_iff hdate hw.2]
  | year y => cases hw

/-- A sale meets the filter of its own item. -/
theorem meets_item (s : Sale) (item : String) :
    s.meets (.equals "item" (.text item)) = (item == s.item) := by
  show emptyLedger.compares ⟨0, s.cells⟩ .equal "item" (.text item) = _
  rw [Query.compares_text (by decide) rfl rfl, Comparison.holds, Cell.same, Bool.eq_iff_iff,
    decide_eq_true_eq, beq_iff_eq]
  simp [Cell.key, eq_comm]

end Sale

namespace Query

/-! ## Questions -/

/-- A question for sales as they are: of the days of a period, if one is named, and of an item, if
one is wanted. -/
structure IsForSales (p : ParameterSet) (wanted : Option String) : Prop where
  xAxis : p.xAxis = none
  yAxis : p.yAxis = none
  sortBy : p.sortBy = none
  period : ∀ token ∈ p.timePeriod, ∀ period, Calendar.Period.parse token = .ok period →
    period.IsOfDays
  filter : match wanted with
    | some item => p.filterColumn.bind (Schema.resolve? ⟨Sale.columns⟩) = some "item" ∧
        p.filterValue = some (.text item)
    | none => p.filterColumn = none ∨ p.filterValue = none

/-- Whether a question leaves a day in, seen from another day. A text that is no period leaves all
of them. -/
def leavesDay (p : ParameterSet) (today d : Calendar.Date) : Bool :=
  match p.timePeriod.map Calendar.Period.parse with
  | some (.ok period) => period.covers today d
  | _ => true

/-- Whether a question is for a sale. -/
def isAsked (p : ParameterSet) (wanted : Option String) (today : Calendar.Date) (s : Sale) : Bool :=
  leavesDay p today s.date && wanted.all (· == s.item)

variable {p : ParameterSet} {wanted : Option String} {today : Calendar.Date}

theorem meets_ofWindow (hperiod : ∀ token ∈ p.timePeriod, ∀ period,
      Calendar.Period.parse token = .ok period → period.IsOfDays) (hyear : 1 ≤ today.year)
    (hyear' : today.year ≤ 9999) {s : Sale} (hdate : s.date.HasPlainYear) :
    (((p.timePeriod.bind fun token => Calendar.resolveWindow? token today).map
      windowCondition).toList).all s.meets = leavesDay p today s.date := by
  unfold leavesDay
  cases htoken : p.timePeriod with
  | none => rfl
  | some token =>
    rw [Option.bind_some, Option.map_some, Calendar.resolveWindow?]
    cases hparse : Calendar.Period.parse token with
    | error f => rfl
    | ok period =>
      obtain ⟨hcovers, hyears⟩ :=
        Calendar.Period.window_spec hyear hyear' (hperiod token htoken period hparse)
      dsimp only
      rw [← hcovers]
      cases hw : period.window? today with
      | none => rfl
      | some w =>
        rw [Option.map_some, Option.toList_some, List.all_cons, List.all_nil, Bool.and_true,
          Option.all_some]
        exact s.meets_window hdate (hyears w hw)

theorem meets_ofFilter (hp : IsForSales p wanted) (s : Sale) :
    (filterCondition? p ⟨Sale.columns⟩).toList.all s.meets = wanted.all (· == s.item) := by
  have hasked := hp.filter
  unfold filterCondition?
  cases wanted with
  | none =>
    rcases hasked with hnone | hnone
    · rw [hnone]
      rfl
    · rw [hnone]
      cases p.filterColumn.bind (Schema.resolve? ⟨Sale.columns⟩) <;> rfl
  | some item =>
    rw [hasked.1, hasked.2, Option.all_some, ← s.meets_item]
    exact Bool.and_true _

/-- **The conditions of a question are met by the sales that it is for.** -/
theorem conditions_meet (hp : IsForSales p wanted) (hyear : 1 ≤ today.year)
    (hyear' : today.year ≤ 9999) {s : Sale} (hdate : s.date.HasPlainYear) :
    (conditions p ⟨Sale.columns⟩ today).all s.meets = isAsked p wanted today s := by
  rw [conditions, List.all_append, meets_ofWindow hp.period hyear hyear' hdate, meets_ofFilter hp s,
    isAsked]

end Query

namespace Service

open Query History

/-- **What was appended comes back.** After any run of operations, an analysis for sales as they are
has the first of those that it asks for, in the order in which they were appended, each with all of
its fields. The batches of all calls that were answered well are among those that landed. -/
theorem analysis_returns {config : Config} {d₀ : Disk} (h : Begins config d₀)
    (hworking : d₀.isDirectory d₀.working = true) (steps : List Step) (t : Tenant)
    (hpath : Store.HasShortPath config t) :
    ∃ landed, ((history config d₀ steps).filter Event.succeeded).Sublist landed ∧
      landed.Sublist (history config d₀ steps) ∧
      ∀ (today : Calendar.Date) (p : ParameterSet) (wanted : Option String),
        IsForSales p wanted → 1 ≤ today.year → today.year ≤ 9999 →
        (∀ sale ∈ landed.flatMap (Event.batch t), sale.date.HasPlainYear) →
        analysis config (after config d₀ steps) today t p =
          (firstOf p.limit ((landed.flatMap (Event.batch t)).filter
            (isAsked p wanted today))).map Sale.fields := by
  obtain ⟨landed, hok, hlanded, hheld⟩ := exists_landed h steps
  refine ⟨landed, hok, hlanded, fun today p wanted hp hyear hyear' hdates => ?_⟩
  have hledger := hheld t
  have hreadable : landed.flatMap (Event.batch t) ≠ [] →
      (Store.schema config (after config d₀ steps) t).columns ≠ [] :=
    fun hsales => columns_ne_nil_after h hworking steps hpath hsales hledger
  generalize landed.flatMap (Event.batch t) = sales at *
  generalize after config d₀ steps = d at *
  -- the conditions that the question compiles to are met by the sales that it is for
  have hasked : (sales.filter fun sale => (conditions p ⟨Sale.columns⟩ today).all sale.meets) =
      sales.filter (isAsked p wanted today) :=
    List.filter_congr fun sale hsale => conditions_meet hp hyear hyear' (hdates sale hsale)
  by_cases hcolumns : (Store.schema config d t).columns = []
  · -- what cannot be read has no sales
    obtain rfl : sales = [] := by
      by_contra hsales
      exact hreadable hsales hcolumns
    rw [analysis_of_no_columns h.directory hledger hcolumns]
    simp [firstOf_nil]
  · rw [analysis_of_whole h.directory hledger hcolumns hp.xAxis hp.yAxis hp.sortBy, hasked]

/-- The question for the first sale of rice in the last month. -/
def riceLastMonth : ParameterSet where
  xAxis := none
  yAxis := none
  aggregation := .none
  filterColumn := some "item"
  filterValue := some (.text "Rice")
  sortBy := none
  sortOrder := .descending
  limit := some 1
  timePeriod := some "last_month"

/-- Oil and rice were sold in January; seen from February, the rice comes back. -/
theorem analysis_returns_riceLastMonth :
    analysis shop oilThenRice marketDay vendor riceLastMonth = [rice.fields] := by
  obtain ⟨landed, hok, hlanded, hreturns⟩ := analysis_returns begins_blank (by decide)
    [⟨.record vendor [oil, rice], []⟩] vendor (by unfold Store.HasShortPath; decide)
  have hall : (history shop blank [⟨.record vendor [oil, rice], []⟩]).all Event.succeeded = true :=
    by decide
  have hparse : Calendar.Period.parse "last_month" = .ok .lastMonth := by decide
  rw [List.filter_eq_self.2 (List.all_eq_true.1 hall)] at hok
  rw [hlanded.antisymm hok] at hreturns
  have hsales : IsForSales riceLastMonth (some "Rice") := by
    refine ⟨rfl, rfl, rfl, ?_, by decide, rfl⟩
    rintro token ⟨⟩ period hperiod
    rw [hparse] at hperiod
    cases hperiod
    trivial
  have hasked : [oil, rice].filter (isAsked riceLastMonth (some "Rice") marketDay) = [rice] := by
    decide
  have hdates : ∀ sale ∈ [oil, rice], sale.date.HasPlainYear := by
    unfold Calendar.Date.HasPlainYear
    decide
  have hanswer := hreturns marketDay riceLastMonth (some "Rice") hsales (by decide) (by decide)
    hdates
  refine hanswer.trans ?_
  show (firstOf (some 1) ([oil, rice].filter
    (isAsked riceLastMonth (some "Rice") marketDay))).map Sale.fields = _
  rw [hasked]
  rfl

end Service

end SalesLedger
