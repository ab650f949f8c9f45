import SalesLedger.Dashboard
import SalesLedger.Proofs.MomentReading
import SalesLedger.Proofs.Revenue
import SalesLedger.Proofs.RoundTrip

/-!
# Trends

The trend of a ledger, told from the calendar and the sales: `trend_agrees`. Its points are for the
seven months up to a day's own, each with the revenue of the sales of that month, and the last has
what an analysis answers for this month.

* `groups_trendQuery`: the query sums up the sales of each month.
* `monthRevenue_eq`: what is looked up for a month is the revenue of its sales.
* `trailingMonths_spec`: the months of the trend.
-/

namespace SalesLedger

open Storage Sql Ledger

namespace Dashboard

open Query Calendar

variable {sales group : List Sale} {rows : List Row} {start : Date}

/-! ## Months of sales -/

/-- The month of a sale as the engine works it out. -/
def monthTerm : Term := .monthOf dateColumn

theorem valueOf_monthTerm {s : Sale} (h : s.date.HasPlainYear) :
    valueOf monthTerm s = .text s.date.monthText := by
  have hcell : emptyLedger.cell ⟨0, s.cells⟩ dateColumn = .text s.date.text := rfl
  unfold valueOf monthTerm Term.eval
  rw [hcell, Moment.dayOfCell?_text h]
  exact congrArg Cell.text (Moment.monthText_eq h)

/-- The sales of a counted month. -/
def inMonth (i : Int) (sales : List Sale) : List Sale := sales.filter (·.date.monthIndex = i)

/-- **The sales with the month of a day** are those of that month. -/
theorem withKey_month (hplain : ∀ s ∈ sales, s.date.HasPlainYear) {d : Date} (h : d.HasPlainYear) :
    withKey (valueOf monthTerm) sales (Cell.text d.monthText).key = inMonth d.monthIndex sales := by
  refine List.filter_congr fun s hs => ?_
  rw [valueOf_monthTerm (hplain s hs), decide_eq_decide, ← Moment.monthText_inj (hplain s hs) h]
  exact ⟨fun hkey => (Cell.Key.text.inj hkey).1, fun htext => by rw [htext]⟩

/-! ## The rows of a trend -/

/-- The sales from the first day of a trend on, in the order of their months. -/
def byMonth (start : Date) (sales : List Sale) : List Sale :=
  order .ascending (valueOf monthTerm) (passing (trendQuery start) sales)

/-- **The query sums up the sales of each month.** -/
theorem groups_trendQuery (start : Date) (sales : List Sale) :
    ((trendQuery start).units (ofSales sales)).map (List.map Row.cells) =
      (groupsOf (valueOf monthTerm) (byMonth start sales)).map (List.map Sale.cells) := by
  let key : List Cell → Cell := fun cells => monthTerm.eval emptyLedger ⟨0, cells⟩
  have hreferent : (trendQuery start).groupReferent (ofSales sales) "month" = .output 0 := rfl
  have hkey : (trendQuery start).groupKey (ofSales sales) (.output 0) = fun row => key row.cells :=
    funext fun row => (Collation.cell_binary _).trans (eval_ofSales monthTerm row)
  have hordered : ((trendQuery start).route? (ofSales sales)).any
      ((trendQuery start).isOrdered (ofSales sales)) = false := by
    rw [Select.isOrdered_of_unkeyed (isUnkeyed_ofSales sales) rfl]
    rfl
  have hrows : (order .ascending (fun row => key row.cells)
      ((trendQuery start).taken (ofSales sales))).map Row.cells =
        (byMonth start sales).map Sale.cells := by
    rw [← order_map, taken_ofSales, order_map]
    rfl
  have hruns : runs (valueOf monthTerm) (byMonth start sales) =
      groupsOf (valueOf monthTerm) (byMonth start sales) :=
    runs_of_ordered _ (order_pairwise _ .ascending _)
  show ((trendQuery start).groups (ofSales sales)).map (List.map Row.cells) = _
  unfold Select.groups
  rw [show (trendQuery start).groupBy = some "month" from rfl]
  dsimp only
  rw [hreferent, hkey, hordered, if_neg Bool.false_ne_true, ← runs_map key]
  show runs key ((order .ascending (fun row => key row.cells)
    ((trendQuery start).taken (ofSales sales))).map Row.cells) = _
  rw [hrows, runs_map key, ← hruns]
  rfl

/-- The record of the sales of a month. -/
def monthRow (group : List Sale) : Json.Fields :=
  Json.Fields.ofList [("month", (((group.head?).map (valueOf monthTerm)).getD .null).toJson),
    ("total_sales", (revenueOf group).toJson)]

theorem cellsOf_trendQuery (h : rows.map Row.cells = group.map Sale.cells) :
    (trendQuery start).cellsOf (ofSales sales) rows =
      .ok [((group.head?).map (valueOf monthTerm)).getD .null, revenueOf group] :=
  mapM_ok_cons (eval_plain_group h monthTerm) (mapM_ok_cons (eval_revenue_group h) rfl)

/-- **The engine's answer for a trend**: a record for each month with sales. -/
theorem run_trendQuery (start : Date) (sales : List Sale) : (trendQuery start).run (ofSales sales) =
    .ok ((groupsOf (valueOf monthTerm) (byMonth start sales)).map monthRow) := by
  have hcells : ((trendQuery start).units (ofSales sales)).mapM
      ((trendQuery start).cellsOf (ofSales sales)) =
        .ok ((groupsOf (valueOf monthTerm) (byMonth start sales)).map fun group =>
          [((group.head?).map (valueOf monthTerm)).getD .null, revenueOf group]) :=
    (mapM_of_map (groups_trendQuery start sales) fun rows group h => cellsOf_trendQuery h).trans
      (mapM_eq_ok fun _ _ => rfl)
  unfold Select.run
  rw [Select.rows_of_groupOrder rfl]
  show (((trendQuery start).units (ofSales sales)).mapM _ >>= fun cells => pure (cells.map _)) = _
  rw [hcells]
  exact congrArg Except.ok List.map_map

/-! ## The revenue of a month -/

theorem number_monthRow (group : List Sale) :
    number (monthRow group) "total_sales" = (revenueOf group).shown := by
  unfold number monthRow
  rw [(Json.Fields.get?_pair (by decide) _ _).2]
  rfl

theorem text?_monthRow {d : Date} (hne : group ≠ []) (hgroup : ∀ s ∈ group,
    s.date.HasPlainYear ∧ s.date.monthText = d.monthText) :
    text? (monthRow group) "month" = some d.monthText := by
  obtain ⟨s, rest, rfl⟩ := List.exists_cons_of_ne_nil hne
  obtain ⟨hplain, htext⟩ := hgroup s List.mem_cons_self
  unfold text? monthRow
  rw [(Json.Fields.get?_pair (by decide) _ _).1, List.head?_cons, Option.map_some,
    Option.getD_some, valueOf_monthTerm hplain, htext]
  rfl

section Plain

variable (hplain : ∀ s ∈ sales, s.date.HasPlainYear)

include hplain

theorem hasPlainYear_of_passing (start : Date) :
    ∀ s ∈ passing (trendQuery start) sales, s.date.HasPlainYear :=
  fun s hs => hplain s (List.mem_filter.1 hs).1

/-- A trend takes the sales of its first month and of those after it. -/
theorem passing_trendQuery (hstart : start.HasPlainYear) (hday : start.day = 1) :
    passing (trendQuery start) sales =
      sales.filter fun s => start.monthIndex ≤ s.date.monthIndex := by
  refine List.filter_congr fun s hs => ?_
  show (emptyLedger.compares ⟨0, s.cells⟩ .atLeast dateColumn (.text start.text) && true) = _
  rw [compares_text (by decide) rfl rfl, Bool.and_true, Comparison.holds, Cell.text_le,
    decide_eq_decide, Date.text_le_iff hstart (hplain s hs), Date.first_le_iff hday]

/-- **The groups of a trend** are the sales of the months that have any. -/
theorem mem_groups_iff : group ∈ groupsOf (valueOf monthTerm) (byMonth start sales) ↔
    ∃ s ∈ passing (trendQuery start) sales,
      group = inMonth s.date.monthIndex (passing (trendQuery start) sales) := by
  have hpassing := hasPlainYear_of_passing hplain start
  have hgroup : ∀ s ∈ passing (trendQuery start) sales,
      withKey (valueOf monthTerm) (byMonth start sales) (valueOf monthTerm s).key =
        inMonth s.date.monthIndex (passing (trendQuery start) sales) := fun s hs => by
    rw [← withKey_month hpassing (hpassing s hs), valueOf_monthTerm (hpassing s hs)]
    exact order_filter _ _ _ _
  have hmem : ∀ s, s ∈ byMonth start sales ↔ s ∈ passing (trendQuery start) sales :=
    fun s => (order_perm _ _ _).mem_iff
  rw [groupsOf, List.mem_map]
  constructor
  · rintro ⟨k, hk, rfl⟩
    obtain ⟨s, hs, rfl⟩ := (mem_keysOf _).1 hk
    rw [hmem] at hs
    exact ⟨s, hs, hgroup s hs⟩
  · rintro ⟨s, hs, rfl⟩
    exact ⟨_, (mem_keysOf _).2 ⟨s, (hmem s).2 hs, rfl⟩, hgroup s hs⟩

/-- The record of the month of a sale names it. -/
theorem text?_row_of_sale {s : Sale} (hs : s ∈ passing (trendQuery start) sales) :
    text? (monthRow (inMonth s.date.monthIndex (passing (trendQuery start) sales))) "month" =
      some s.date.monthText := by
  have hpassing := hasPlainYear_of_passing hplain start
  refine text?_monthRow (List.ne_nil_of_mem (List.mem_filter.2 ⟨hs, decide_eq_true rfl⟩)) ?_
  intro s' hs'
  obtain ⟨hmem, hmonth⟩ := List.mem_filter.1 hs'
  exact ⟨hpassing s' hmem,
    (Moment.monthText_inj (hpassing s' hmem) (hpassing s hs)).2 (of_decide_eq_true hmonth)⟩

/-- **What is looked up for a month is the revenue of its sales**, be there any or none. -/
theorem monthRevenue_eq (hstart : start.HasPlainYear) (hday : start.day = 1) {d : Date}
    (hd : d.HasPlainYear) (hmonth : start.monthIndex ≤ d.monthIndex) :
    monthRevenue ((groupsOf (valueOf monthTerm) (byMonth start sales)).map monthRow) d.monthText =
      (revenueOf (inMonth d.monthIndex sales)).shown := by
  have hsame : inMonth d.monthIndex (passing (trendQuery start) sales) =
      inMonth d.monthIndex sales := by
    unfold inMonth
    rw [passing_trendQuery hplain hstart hday, List.filter_filter]
    refine List.filter_congr fun s _ => ?_
    rw [Bool.and_eq_left_iff_imp, decide_eq_true_eq, decide_eq_true_eq]
    omega
  unfold monthRevenue
  cases hfind : ((groupsOf (valueOf monthTerm) (byMonth start sales)).map monthRow).reverse.find?
    fun row => text? row "month" = some d.monthText with
  | some row =>
    have hrow := List.mem_reverse.1 (List.mem_of_find?_eq_some hfind)
    obtain ⟨group, hgroup, rfl⟩ := List.mem_map.1 hrow
    obtain ⟨s, hs, rfl⟩ := (mem_groups_iff hplain).1 hgroup
    have htext := List.find?_some hfind
    rw [decide_eq_true_eq, text?_row_of_sale hplain hs] at htext
    have hindex := (Moment.monthText_inj (hasPlainYear_of_passing hplain start s hs) hd).1
      (Option.some.inj htext)
    dsimp only
    rw [number_monthRow, hindex, hsame]
  | none =>
    have hnone : inMonth d.monthIndex sales = [] := by
      refine List.eq_nil_iff_forall_not_mem.2 fun s hs => ?_
      rw [← hsame] at hs
      obtain ⟨hmem, hindex⟩ := List.mem_filter.1 hs
      have hrow := List.mem_reverse.2 (List.mem_map_of_mem (f := monthRow)
        ((mem_groups_iff hplain).2 ⟨s, hmem, rfl⟩))
      have hother := List.find?_eq_none.1 hfind _ hrow
      rw [text?_row_of_sale hplain hmem, decide_eq_true_eq] at hother
      have htext := (Moment.monthText_inj (hasPlainYear_of_passing hplain start s hmem) hd).2
        (of_decide_eq_true hindex)
      exact hother (congrArg some htext)
    rw [hnone]
    rfl

end Plain

/-! ## The points of a trend -/

/-- The seven months up to a day's own, oldest first. -/
def lastMonths (today : Date) : List Int :=
  (List.range 7).reverse.map fun (back : Nat) => today.monthIndex - back

theorem mem_lastMonths {today : Date} {i : Int} :
    i ∈ lastMonths today ↔ today.monthIndex - 6 ≤ i ∧ i ≤ today.monthIndex := by
  unfold lastMonths
  rw [List.mem_map]
  constructor
  · rintro ⟨back, hback, rfl⟩
    rw [List.mem_reverse, List.mem_range] at hback
    omega
  · rintro ⟨hlow, hhigh⟩
    refine ⟨(today.monthIndex - i).toNat, ?_, by omega⟩
    rw [List.mem_reverse, List.mem_range]
    omega

theorem nodup_lastMonths (today : Date) : (lastMonths today).Nodup := by
  unfold lastMonths
  refine List.Nodup.map (fun a b h => ?_) (List.nodup_reverse.2 List.nodup_range)
  omega

theorem map_filterMap_of_some {α β γ : Type} {f : α → Option β} {g : β → γ} {k : α → γ}
    {xs : List α} (h : ∀ a ∈ xs, ∃ b, f a = some b ∧ g b = k a) :
    (xs.filterMap f).map g = xs.map k := by
  induction xs with
  | nil => rfl
  | cons a xs ih =>
    obtain ⟨b, hb, hg⟩ := h a List.mem_cons_self
    rw [List.filterMap_cons_some hb, List.map_cons, List.map_cons, hg,
      ih fun a' ha' => h a' (List.mem_cons_of_mem a ha')]

section Months

variable {today : Date} (hyear : 1 ≤ today.year) (hyear' : today.year ≤ 9999)

include hyear hyear'

/-- The months of the years 1 to 9999. -/
theorem monthIndex_of_years : 12 ≤ today.monthIndex ∧ today.monthIndex < 120000 := by
  obtain ⟨-, -, hmonth, hmonth', -, -⟩ := today.inCalendar
  unfold Date.monthIndex
  omega

/-- **The months of a trend** are the last seven, each known by its first day. -/
theorem trailingMonths_spec :
    (trailingMonths today trendMonths).map Date.monthIndex = lastMonths today ∧
      ∀ d ∈ trailingMonths today trendMonths, d.day = 1 := by
  have hindex := monthIndex_of_years hyear hyear'
  refine ⟨map_filterMap_of_some fun back hback => ?_, fun d hd => ?_⟩
  · rw [List.mem_reverse, List.mem_range] at hback
    unfold trendMonths at hback
    obtain ⟨d, hd⟩ := Date.exists_firstOf (i := today.monthIndex - (back : Nat))
      (by unfold firstYear; omega) (by unfold lastYear; omega)
    exact ⟨d, hd, (Date.monthIndex_firstOf hd).1⟩
  · obtain ⟨back, -, hback⟩ := List.mem_filterMap.1 hd
    exact (Date.monthIndex_firstOf hback).2

/-- They are of the years 0 to 9999. -/
theorem mem_trailingMonths {d : Date} (hd : d ∈ trailingMonths today trendMonths) :
    d.HasPlainYear ∧ today.monthIndex - 6 ≤ d.monthIndex := by
  have hindex := monthIndex_of_years hyear hyear'
  have hmem : d.monthIndex ∈ lastMonths today :=
    (trailingMonths_spec hyear hyear').1 ▸ List.mem_map_of_mem hd
  rw [mem_lastMonths] at hmem
  exact ⟨Date.hasPlainYear_of_monthIndex (by omega) (by omega), hmem.1⟩

end Months

/-- The point of a month. -/
def pointOf (sales : List Sale) (i : Int) : TrendPoint :=
  ⟨monthName (i % 12 + 1).toNat, (revenueOf (inMonth i sales)).shown,
    (revenueOf (inMonth i sales)).shown * targetFactor⟩

/-- **Every sale of some months belongs to one of them.** -/
theorem inMonth_perm {months : List Int} (h : months.Nodup) (sales : List Sale) :
    (months.flatMap fun i => inMonth i sales).Perm
      (sales.filter fun s => s.date.monthIndex ∈ months) := by
  induction months with
  | nil => simp
  | cons i months ih =>
    obtain ⟨hi, hmonths⟩ := List.nodup_cons.1 h
    have hparts := List.filter_append_perm (fun s : Sale => decide (s.date.monthIndex = i))
      (sales.filter fun s => s.date.monthIndex ∈ i :: months)
    rw [List.filter_filter, List.filter_filter] at hparts
    have hthis : (sales.filter fun s => decide (s.date.monthIndex = i) &&
        decide (s.date.monthIndex ∈ i :: months)) = inMonth i sales := by
      refine List.filter_congr fun s _ => ?_
      by_cases hs : s.date.monthIndex = i <;> simp [hs]
    have hother : (sales.filter fun s => (!decide (s.date.monthIndex = i)) &&
        decide (s.date.monthIndex ∈ i :: months)) =
          sales.filter fun s => s.date.monthIndex ∈ months := by
      refine List.filter_congr fun s _ => ?_
      by_cases hs : s.date.monthIndex = i <;> simp [hs, hi]
    rw [hthis, hother] at hparts
    exact ((ih hmonths).append_left (inMonth i sales)).trans hparts

section Held

variable {config : Config} {d : Disk} {t : Tenant} {today : Date}

/-- **The trend of a ledger that can be read**, told from its sales. -/
theorem trend_of_held (hdir : config.HasPlainDirectory)
    (hheld : Store.heldLedger config d t = ofSales sales)
    (hschema : (Store.schema config d t).columns ≠ [])
    (hplain : ∀ s ∈ sales, s.date.HasPlainYear) (hyear : 1 ≤ today.year)
    (hyear' : today.year ≤ 9999) :
    trend config d t today = (lastMonths today).map (pointOf sales) := by
  obtain ⟨hexists, -, hrows⟩ := Store.rows_of_held hdir hheld hschema
  obtain ⟨hmonths, hfirst⟩ := trailingMonths_spec hyear hyear'
  have hall := fun d => mem_trailingMonths (d := d) hyear hyear'
  unfold trend
  rw [← hmonths]
  cases heq : trailingMonths today trendMonths with
  | nil => rfl
  | cons start rest =>
    rw [heq] at hmonths hfirst hall
    have hstart : start.monthIndex = today.monthIndex - 6 := (List.cons.inj hmonths).1
    dsimp only
    rw [if_pos hexists, hrows _ rfl, run_trendQuery, List.map_map]
    refine List.map_congr_left fun month hmem => ?_
    obtain ⟨hplainMonth, hlow⟩ := hall month hmem
    have hrevenue := monthRevenue_eq hplain (hall start List.mem_cons_self).1
      (hfirst start List.mem_cons_self) hplainMonth (by omega)
    have hname : (month.monthIndex % 12 + 1).toNat = month.month := by
      have hindex := month.month_of_monthIndex
      omega
    rw [Function.comp_apply, pointOf, hname, ← hrevenue]
    rfl

end Held

/-! ## This month -/

open Service History

/-- The question how much was earned this month. -/
def earnedThisMonth : ParameterSet := { earnedTotal with timePeriod := some "this_month" }

theorem filter_earnedThisMonth (hplain : ∀ s ∈ sales, s.date.HasPlainYear) {today : Date}
    (hyear : 1 ≤ today.year) (hyear' : today.year ≤ 9999) :
    (sales.filter fun sale => (conditions earnedThisMonth ⟨Sale.columns⟩ today).all sale.meets) =
      inMonth today.monthIndex sales := by
  have hparse : Period.parse "this_month" = .ok .thisMonth := by decide
  have hperiod : ∀ token ∈ earnedThisMonth.timePeriod, ∀ period,
      Period.parse token = .ok period → period.IsOfDays := by
    rintro token ⟨⟩ period hperiod
    rw [hparse] at hperiod
    obtain rfl := Except.ok.inj hperiod
    trivial
  refine List.filter_congr fun s hs => ?_
  have hleaves : leavesDay earnedThisMonth today s.date =
      decide (s.date.monthIndex = today.monthIndex) := by
    unfold leavesDay
    rw [show earnedThisMonth.timePeriod.map Period.parse = some (.ok .thisMonth) from
      congrArg some hparse]
    rfl
  rw [conditions, List.all_append, meets_ofWindow hperiod hyear hyear' (hplain s hs), hleaves]
  exact Bool.and_true _

/-- **A trend agrees with the calendar and with analyses.** After any run of operations that left a
ledger with its five columns and sales of the years 0 to 9999, its trend on a day of the years 1 to
9999 has a point for each of the seven months up to that day's, with the revenue of the sales of that
month. Each sale of those months is counted once and no other is, and the last point shows what an
analysis answers for this month. -/
theorem trend_agrees {config : Config} {d₀ : Disk} (h : Begins config d₀) (steps : List Step)
    {t : Tenant} (hschema : Store.schema config (after config d₀ steps) t = ⟨Sale.columns⟩) :
    ∃ landed, ((history config d₀ steps).filter Event.succeeded).Sublist landed ∧
      landed.Sublist (history config d₀ steps) ∧
      ((∀ sale ∈ landed.flatMap (Event.batch t), sale.date.HasPlainYear) →
        ∀ today : Date, 1 ≤ today.year → today.year ≤ 9999 →
          trend config (after config d₀ steps) t today =
            (lastMonths today).map (pointOf (landed.flatMap (Event.batch t))) ∧
          ((lastMonths today).flatMap fun i => inMonth i (landed.flatMap (Event.batch t))).Perm
            ((landed.flatMap (Event.batch t)).filter fun sale =>
              today.monthIndex - 6 ≤ sale.date.monthIndex ∧
                sale.date.monthIndex ≤ today.monthIndex) ∧
          ∃ total, analysis config (after config d₀ steps) today t earnedThisMonth =
              [[(totalSales, total)]] ∧
            (trend config (after config d₀ steps) t today).getLast?.map TrendPoint.sales =
              some (total.float?.getD 0)) := by
  obtain ⟨landed, hok, hlanded, hheld⟩ := exists_landed h steps
  refine ⟨landed, hok, hlanded, fun hplain today hyear hyear' => ?_⟩
  have hledger := hheld t
  generalize after config d₀ steps = d at *
  generalize landed.flatMap (Event.batch t) = sales at *
  have hcolumns : (Store.schema config d t).columns ≠ [] := by
    rw [hschema]
    decide
  have htrend := trend_of_held h.directory hledger hcolumns hplain hyear hyear'
  refine ⟨htrend, ?_, (revenueOf (inMonth today.monthIndex sales)).toJson, ?_, ?_⟩
  · have hperm := inMonth_perm (nodup_lastMonths today) sales
    simp only [mem_lastMonths] at hperm
    exact hperm
  · rw [analysis_of_total h.directory hledger hcolumns rfl rfl rfl,
      filter_earnedThisMonth hplain hyear hyear']
  · have hlast : (lastMonths today).getLast? = some today.monthIndex := by
      rw [← Int.sub_zero today.monthIndex]
      rfl
    rw [htrend, List.getLast?_map, hlast]
    rfl

/-- The last day of the month in which oil and rice were sold. -/
def monthEnd : Date := ⟨2025, 1, 31, by decide⟩

/-- Both sales are counted for January, and six months have none. -/
theorem trend_agrees_oilThenRice :
    trend shop oilThenRice vendor monthEnd = (lastMonths monthEnd).map (pointOf [oil, rice]) ∧
      ((lastMonths monthEnd).map fun i => (inMonth i [oil, rice]).length) = [0, 0, 0, 0, 0, 0, 2] ∧
      ∃ total, analysis shop oilThenRice monthEnd vendor earnedThisMonth =
          [[("total_sales", total)]] ∧
        (trend shop oilThenRice vendor monthEnd).getLast?.map TrendPoint.sales =
          some (total.float?.getD 0) := by
  obtain ⟨landed, hok, hlanded, hagrees⟩ := trend_agrees begins_blank
    [⟨.record vendor [oil, rice], []⟩] schema_oilThenRice
  rw [landed_oilThenRice hok hlanded] at hagrees
  have hplain : ∀ sale ∈ [oil, rice], sale.date.HasPlainYear := by
    unfold Date.HasPlainYear
    decide
  obtain ⟨htrend, -, hlast⟩ := hagrees hplain monthEnd (by decide) (by decide)
  exact ⟨htrend, by decide, hlast⟩

end Dashboard

end SalesLedger
