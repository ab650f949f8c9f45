import SalesLedger.Dashboard
import SalesLedger.Proofs.Making
import SalesLedger.Proofs.Revenue
import SalesLedger.Proofs.Windows

/-!
# Ledgers that cannot be read

What callers get of a ledger that is missing or cannot be read, beside what they get of one that was
made and has no sales. A chart, the summary, the stock and the latest sales are the same. Two views
tell the ledgers apart, and `unreadable_like_empty` says exactly when: an analysis for the revenue
of all sales has a row for the ledger without sales, and the trend has no months where the file is
missing.

* `fetch_of_unreadable`, `trend_of_unreadable`: what cannot be read has no rows.
* `fetch_strict_of_empty`, `trend_of_empty`: what a ledger without sales has.
-/

namespace SalesLedger

open Storage Query Sql Ledger

variable {config : Config} {d : Disk} {t : Tenant}

/-! ## Ledgers without a table -/

namespace Storage.Store

/-- Nothing can be read of a tenant's ledger: there is no file, it cannot be opened as a database, or
the database lacks the table. -/
def IsUnreadable (config : Config) (d : Disk) (t : Tenant) : Prop :=
  ∀ action db, openLedger config d t action = .ok db → db.table? Ledger.table = none

theorem isUnreadable_of_missing (h : ledgerExists config d t = false) : IsUnreadable config d t := by
  intro action db hopen
  unfold openLedger at hopen
  unfold ledgerExists at h
  dsimp only at hopen
  rw [h, if_neg Bool.false_ne_true] at hopen
  cases hopen

theorem isUnreadable_of_failed (h : ∀ action, ∃ f, openLedger config d t action = .error f) :
    IsUnreadable config d t := by
  intro action db hopen
  obtain ⟨f, hf⟩ := h action
  rw [hf] at hopen
  cases hopen

theorem rows_of_unreadable (h : IsUnreadable config d t) {s : Select} (hs : s.table = Ledger.table) :
    rows config d t s = [] := by
  unfold rows query
  cases hopen : openLedger config d t "preparing query" with
  | error f => rfl
  | ok db =>
    simp only [bind, Except.bind, hs, h _ db hopen]
    rfl

end Storage.Store

/-! ## Rows -/

namespace Service

variable {today : Calendar.Date} {p : ParameterSet} {x : String} {m : Measure} {s : Select}

theorem table_of_compile {schema : Schema} {shape : Shape} {q : Compiled}
    (h : Query.compile p schema today shape = .ok q) : q.select.table = Ledger.table := by
  unfold Query.compile at h
  split at h
  · cases h
  · obtain rfl := Except.ok.inj h
    rfl

theorem fetch_of_unreadable (h : Store.IsUnreadable config d t) (today : Calendar.Date)
    (p : ParameterSet) (shape : Shape) : fetch config d today t p shape = [] := by
  unfold fetch compile
  split
  · split
    · rename_i hq
      rw [Store.rows_of_unreadable h (table_of_compile hq)]
      rfl
    · rfl
  · rfl

theorem chart_of_no_rows (h : fetch config d today t p .strict = []) :
    chart config d today t p = [] := by
  unfold chart
  rw [h]

/-- A query of a measure by a category never takes all rows for one. -/
theorem isTotal_of_asks (hs : Asks p x m s) : s.isTotal = false := by
  unfold Select.isTotal
  rw [hs.isSummary, hs.groupBy]
  cases isSummed p m <;> rfl

/-- A query that does not take all rows for one has nothing to take of a ledger without sales. -/
theorem units_of_empty (htotal : s.isTotal = false) : s.units (ofSales []) = [] := by
  have htaken : s.taken (ofSales []) = [] := taken_of_none rfl
  rw [Select.units_of_none htaken, htotal, if_neg Bool.false_ne_true]

/-- A ledger without sales has no rows for a chart. -/
theorem fetch_strict_of_empty (hdir : config.HasPlainDirectory)
    (hheld : Store.heldLedger config d t = ofSales [])
    (hschema : (Store.schema config d t).columns ≠ []) :
    fetch config d today t p .strict = [] := by
  cases hrefused : isRefused p (Store.schema config d t) .strict with
  | true =>
    unfold fetch compile Query.compile
    rw [hrefused]
    simp
  | false =>
    obtain ⟨x, m, hx, hm⟩ := found_of_strict hrefused
    have hs := asks_compiled hx hm today .strict
    have hunits := units_of_empty (isTotal_of_asks hs)
    rw [fetch_of_held hdir hheld hschema hrefused, Select.run, Select.rows_of_no_units hunits]
    rfl

/-- An analysis of a ledger without sales has no rows, or the one of the revenue. -/
theorem analysis_of_empty (hdir : config.HasPlainDirectory)
    (hheld : Store.heldLedger config d t = ofSales [])
    (hschema : (Store.schema config d t).columns ≠ []) :
    analysis config d today t p = answerOfNone p (Store.schema config d t) := by
  unfold analysis
  rw [fetch_of_held hdir hheld hschema rfl, run_of_none hschema rfl]
  show (answerOfNone p (Store.schema config d t)).map Presentation.normalizeRow = _
  unfold answerOfNone
  split <;> rfl

end Service

/-! ## Views -/

namespace Dashboard

variable {today : Calendar.Date}

/-- The months of a trend in which nothing was sold. -/
def noSales (today : Calendar.Date) : List TrendPoint :=
  (trailingMonths today trendMonths).map fun month =>
    ⟨Calendar.monthName month.month, 0, 0 * targetFactor⟩

/-- A day's own month is among the months up to it. -/
theorem trailingMonths_ne_nil (today : Calendar.Date) {count : Nat} (h : 0 < count) :
    trailingMonths today count ≠ [] := by
  obtain ⟨hfirst, hlast, hmonth, hmonth', -, -⟩ := today.inCalendar
  have hlow : Calendar.firstYear * 12 ≤ today.monthIndex - (0 : Nat) := by
    unfold Calendar.Date.monthIndex
    omega
  have hhigh : today.monthIndex - (0 : Nat) < Calendar.lastYear * 12 + 12 := by
    unfold Calendar.Date.monthIndex
    omega
  obtain ⟨first, hown⟩ := Calendar.Date.exists_firstOf hlow hhigh
  have hmem : first ∈ trailingMonths today count :=
    List.mem_filterMap.2 ⟨0, List.mem_reverse.2 (List.mem_range.2 h), hown⟩
  exact List.ne_nil_of_mem hmem

theorem noSales_ne_nil (today : Calendar.Date) : noSales today ≠ [] :=
  mt List.map_eq_nil_iff.1 (trailingMonths_ne_nil today (by decide))

/-- The trend of a file that gives no rows. -/
theorem trend_of_no_rows (hexists : Store.ledgerExists config d t = true)
    (hrows : ∀ start, Store.rows config d t (trendQuery start) = []) :
    trend config d t today = noSales today := by
  unfold trend noSales
  cases trailingMonths today trendMonths with
  | nil => rfl
  | cons start rest =>
    dsimp only
    rw [if_pos hexists, hrows]
    rfl

/-- A file that cannot be read has months in which nothing was sold; without a file there are no
months. -/
theorem trend_of_unreadable (h : Store.IsUnreadable config d t) (today : Calendar.Date) :
    trend config d t today =
      if Store.ledgerExists config d t then noSales today else [] := by
  split
  · rename_i hexists
    exact trend_of_no_rows hexists fun start => Store.rows_of_unreadable h rfl
  · rename_i hmissing
    unfold trend
    split
    · rfl
    · exact if_neg hmissing

theorem summary_of_unreadable (h : Store.IsUnreadable config d t) :
    summary config d t = Summary.empty := by
  unfold summary
  rw [Store.rows_of_unreadable h rfl, Store.rows_of_unreadable h rfl]
  exact ite_self _

theorem inventory_of_unreadable (h : Store.IsUnreadable config d t) : inventory config d t = [] := by
  unfold inventory
  rw [Store.rows_of_unreadable h rfl]
  exact ite_self _

theorem recent_of_unreadable (h : Store.IsUnreadable config d t) : recent config d t = [] := by
  unfold recent
  rw [Store.rows_of_unreadable h rfl]
  exact ite_self _

section Empty

variable (hdir : config.HasPlainDirectory) (hheld : Store.heldLedger config d t = ofSales [])
  (hschema : (Store.schema config d t).columns ≠ [])

include hdir hheld hschema

/-- A query that does not take all rows for one has no rows of a ledger without sales. -/
theorem rows_of_empty {s : Select} (hs : s.table = Ledger.table) (htotal : s.isTotal = false) :
    Store.rows config d t s = [] := by
  have hunits := Service.units_of_empty htotal
  rw [(Store.rows_of_held hdir hheld hschema).2.2 s hs, Select.run, Select.rows_of_no_units hunits]
  rfl

/-- A ledger without sales has months in which nothing was sold. -/
theorem trend_of_empty (today : Calendar.Date) : trend config d t today = noSales today :=
  trend_of_no_rows (Store.rows_of_held hdir hheld hschema).1 fun _ =>
    rows_of_empty hdir hheld hschema rfl rfl

/-- The totals over no sales are zero. -/
theorem summary_of_empty : summary config d t = Summary.empty := by
  obtain ⟨hexists, -, hrows⟩ := Store.rows_of_held hdir hheld hschema
  have htotals : (totalsQuery.run (ofSales [])).toOption.getD [] =
      [[("inventory_value", .integer 0), ("low_stock_items", .integer 0),
        ("total_orders", .integer 0), ("total_sales", .integer 0)]] := rfl
  unfold summary
  rw [if_pos hexists, rows_of_empty hdir hheld hschema rfl rfl, hrows totalsQuery rfl, htotals]
  rfl

theorem inventory_of_empty : inventory config d t = [] := by
  unfold inventory
  rw [rows_of_empty hdir hheld hschema rfl rfl]
  exact ite_self _

theorem recent_of_empty : recent config d t = [] := by
  unfold recent
  rw [rows_of_empty hdir hheld hschema rfl rfl]
  exact ite_self _

end Empty

/-! ## Callers -/

open Service History

/-- **What tells a ledger that cannot be read from one without sales.** Beside a ledger that was made
in a run of operations and has no sales, one that is missing or cannot be read has the same chart,
summary, stock and latest sales. The analysis is the same unless it is for the revenue of all sales,
which over no sales is a row with a null; the trend is the same where a file is there, and has no
months where there is none. -/
theorem unreadable_like_empty {config config' : Config} {d d₀ : Disk} {t u : Tenant}
    (hunreadable : Store.IsUnreadable config d t) (h : Begins config' d₀)
    (hworking : d₀.isDirectory d₀.working = true) {steps : List Step}
    (hpath : Store.HasShortPath config' u)
    (hmade : (.ensureTenant u, .ok .done) ∈ history config' d₀ steps)
    (hempty : (Store.heldLedger config' (after config' d₀ steps) u).rows = [])
    (today : Calendar.Date) (p : ParameterSet) :
    chart config d today t p = chart config' (after config' d₀ steps) today u p ∧
      summary config d t = summary config' (after config' d₀ steps) u ∧
      inventory config d t = inventory config' (after config' d₀ steps) u ∧
      recent config d t = recent config' (after config' d₀ steps) u ∧
      (analysis config d today t p = [] ∧
        analysis config' (after config' d₀ steps) today u p = answerOfNone p ⟨Sale.columns⟩ ∧
        (analysis config d today t p = analysis config' (after config' d₀ steps) today u p ↔
          ¬ IsForTotal p ⟨Sale.columns⟩)) ∧
      (trend config d t today = if Store.ledgerExists config d t then noSales today else []) ∧
      trend config' (after config' d₀ steps) u today = noSales today ∧
      (trend config d t today = trend config' (after config' d₀ steps) u today ↔
        Store.ledgerExists config d t = true) := by
  have hschema := columns_ne_nil_of_made h hworking hpath hmade
  obtain ⟨landed, -, -, hheld⟩ := exists_landed h steps
  have hledger : Store.heldLedger config' (after config' d₀ steps) u = ofSales [] := by
    have hcells := cells_ofSales (landed.flatMap (Event.batch u))
    rw [← hheld u, hempty] at hcells
    rw [hheld u, List.map_eq_nil_iff.1 hcells.symm]
  generalize after config' d₀ steps = e at *
  have hcolumns := (Store.rows_of_held h.directory hledger hschema).2.1
  have hchart : chart config d today t p = chart config' e today u p := by
    rw [chart_of_no_rows (fetch_of_unreadable hunreadable today p .strict),
      chart_of_no_rows (fetch_strict_of_empty h.directory hledger hschema)]
  have hanalysis : analysis config d today t p = [] :=
    fetch_of_unreadable hunreadable today p .lenient
  have hanalysis' : analysis config' e today u p = answerOfNone p ⟨Sale.columns⟩ := by
    rw [← hcolumns]
    exact analysis_of_empty h.directory hledger hschema
  have htrend := trend_of_unreadable hunreadable today
  have htrend' := trend_of_empty h.directory hledger hschema today
  refine ⟨hchart, ?_, ?_, ?_, ⟨hanalysis, hanalysis', ?_⟩, htrend, htrend', ?_⟩
  · rw [summary_of_unreadable hunreadable, summary_of_empty h.directory hledger hschema]
  · rw [inventory_of_unreadable hunreadable, inventory_of_empty h.directory hledger hschema]
  · rw [recent_of_unreadable hunreadable, recent_of_empty h.directory hledger hschema]
  · rw [hanalysis, hanalysis', answerOfNone]
    by_cases hfor : IsForTotal p ⟨Sale.columns⟩
    · simp [hfor]
    · simp [hfor]
  · rw [htrend, htrend']
    cases hexists : Store.ledgerExists config d t with
    | true => simp
    | false => simp [(noSales_ne_nil today).symm]

/-- A disk on which the ledger is made, and the one with a file that is no database in its place. -/
def vendorMade : Disk := after shop blank [⟨.ensureTenant vendor, []⟩]
def vendorSpoilt : Disk :=
  vendorMade.put (Path.place vendorMade.working (Store.ledgerPath shop vendor)) .foreign

/-- Where no ledger was made, both views differ from those of the ledger that is made. Where the
file is spoilt, the trend is the same. -/
theorem unreadable_like_empty_vendor :
    analysis shop blank marketDay vendor earnedTotal ≠
        analysis shop vendorMade marketDay vendor earnedTotal ∧
      trend shop blank vendor marketDay ≠ trend shop vendorMade vendor marketDay ∧
      trend shop vendorSpoilt vendor marketDay = trend shop vendorMade vendor marketDay := by
  have hmissing : Store.ledgerExists shop blank vendor = false := by decide +kernel
  have hspoilt : Store.IsUnreadable shop vendorSpoilt vendor :=
    Store.isUnreadable_of_failed fun action => ⟨_, rfl⟩
  have hpath : Store.HasShortPath shop vendor := by unfold Store.HasShortPath; decide
  have hmade : (.ensureTenant vendor, .ok .done) ∈
      history shop blank [⟨.ensureTenant vendor, []⟩] := List.mem_singleton.2 rfl
  obtain ⟨-, -, -, -, ⟨-, -, hanalysis⟩, -, -, htrend⟩ :=
    unreadable_like_empty (Store.isUnreadable_of_missing hmissing) begins_blank (by decide) hpath
      hmade (by decide +kernel) marketDay earnedTotal
  obtain ⟨-, -, -, -, -, -, -, htrend'⟩ :=
    unreadable_like_empty hspoilt begins_blank (by decide) hpath hmade (by decide +kernel)
      marketDay earnedTotal
  refine ⟨fun hsame => ?_, fun hsame => ?_, htrend'.2 (by decide +kernel)⟩
  · exact hanalysis.1 hsame (by decide +kernel)
  · have hexists := htrend.1 hsame
    rw [hmissing] at hexists
    cases hexists

end Dashboard

end SalesLedger
