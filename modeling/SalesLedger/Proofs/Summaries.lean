import SalesLedger.Dashboard
import SalesLedger.Proofs.Counting
import SalesLedger.Proofs.Numbering
import SalesLedger.Proofs.Revenue
import SalesLedger.Proofs.Sorting

/-!
# Summaries and analyses

The summary of a ledger has statements of its own, and `summary_agrees`: what it shows is what an
analysis answers to the same question. Both totals are the revenue of all sales, both best items the
first of one ranking, and there are as many orders as groups of sales with one date.

* `length_distinct`, `length_groupsOf`: different cells and groups are counted by their keys.
* `run_totals`: the row of totals, told from the sales.
* `rows_topQuery`: the summary's ranking is that of an analysis.
-/

namespace SalesLedger

open Storage Sql Ledger

/-! ## Different cells -/

namespace Sql

/-- As many cells are told apart as there are keys. -/
theorem length_distinct (cells : List Cell) :
    (distinct cells).length = (cells.map Cell.key).dedup.length := by
  induction cells with
  | nil => rfl
  | cons c cells ih =>
    have hany : cells.any c.same = true ↔ c.key ∈ cells.map Cell.key := by
      simp only [List.any_eq_true, Cell.same_iff, List.mem_map, eq_comm (a := c.key)]
    unfold distinct
    rw [List.map_cons]
    by_cases hmem : c.key ∈ cells.map Cell.key
    · rw [if_pos (hany.2 hmem), List.dedup_cons_of_mem hmem, ih]
    · rw [if_neg (mt hany.1 hmem), List.dedup_cons_of_notMem hmem, List.length_cons, ih,
        List.length_cons]

/-- There are as many groups as keys. -/
theorem length_groupsOf {α : Type} (key : α → Cell) (xs : List α) :
    (groupsOf key xs).length = (xs.map fun a => (key a).key).dedup.length := by
  have hperm : (keysOf key xs).Perm (xs.map fun a => (key a).key).dedup := by
    rw [List.perm_ext_iff_of_nodup (nodup_keysOf key xs) (List.nodup_dedup _)]
    intro k
    rw [mem_keysOf, List.mem_dedup, List.mem_map]
  rw [groupsOf, List.length_map, hperm.length_eq]

/-- Zero in the place of nothing. -/
def Cell.orZero : Cell → Cell
  | .null => .integer 0
  | c => c

theorem eval_orZero {t : Table} {rows : List Row} {a : Aggregate} {term : Term} {c : Cell}
    (h : a.apply (term.evalAll t rows a) = .ok c) :
    (Selection.aggregateOrZero a term).eval t rows = .ok c.orZero := by
  unfold Selection.eval
  dsimp only
  rw [h]
  cases c <;> rfl

end Sql

namespace Dashboard

open Query

variable {sales : List Sale} {rows : List Row}

/-! ## Totals -/

/-- The number of dates on which something was sold. -/
def orderCount (sales : List Sale) : Nat := (groupsOf (Sale.cell · dateColumn) sales).length

/-- What the stock of some sales is worth. -/
def worthOf (sales : List Sale) : Cell :=
  total (sales.map fun s => multiply (s.cell priceColumn) (s.cell stockColumn))

/-- The items of which little was left at some sale. -/
def lowItems (sales : List Sale) : List String :=
  ((sales.filter (·.inStock ≤ lowStock)).map Sale.item).dedup

theorem orderCount_le (sales : List Sale) : orderCount sales ≤ sales.length := by
  unfold orderCount
  rw [length_groupsOf]
  have hless := (List.dedup_sublist (sales.map fun s => (s.cell dateColumn).key)).length_le
  rwa [List.length_map] at hless

theorem length_lowItems_le (sales : List Sale) : (lowItems sales).length ≤ sales.length := by
  have hless := (List.dedup_sublist ((sales.filter (·.inStock ≤ lowStock)).map Sale.item)).length_le
  rw [List.length_map] at hless
  exact hless.trans (List.length_filter_le _ _)

/-- The item of a sale that left little. -/
def lowItem (s : Sale) : Cell := if s.inStock ≤ lowStock then .text s.item else .null

theorem valueOf_lowItem (s : Sale) :
    valueOf (.whenAtMost stockColumn (.integer lowStock) (.column itemColumn)) s = lowItem s := by
  have hlow : emptyLedger.compares ⟨0, s.cells⟩ .atMost stockColumn (.integer lowStock) = true ↔
      s.inStock ≤ lowStock := by
    rw [compares_sale (by decide)]
    have hholds : Comparison.atMost.holds (s.cell stockColumn)
        ((emptyLedger.affinityAt (Sale.columns.idxOf stockColumn)).turned (.integer lowStock)) =
          true ↔ s.inStock ≤ lowStock :=
      decide_eq_true_iff.trans Decimal.Binary64.units_ofInt_le_iff
    rw [hholds]
    exact ⟨fun h => h.2.2, fun h => ⟨nofun, nofun, h⟩⟩
  show (if emptyLedger.compares ⟨0, s.cells⟩ .atMost stockColumn (.integer lowStock) then
    valueOf (.column itemColumn) s else .null) = _
  rw [valueOf_column (by decide), lowItem]
  by_cases h : s.inStock ≤ lowStock
  · rw [if_pos (hlow.2 h), if_pos h]
    rfl
  · rw [if_neg (mt hlow.1 h), if_neg h]

theorem filter_isPresent_lowItem (sales : List Sale) :
    (sales.map lowItem).filter Cell.isPresent =
      (sales.filter (·.inStock ≤ lowStock)).map fun s => .text s.item := by
  have hpresent : Cell.isPresent ∘ lowItem = fun s => decide (s.inStock ≤ lowStock) := by
    funext s
    rw [Function.comp_apply, lowItem]
    by_cases h : s.inStock ≤ lowStock <;> simp [h, Cell.isPresent]
  rw [List.filter_map, hpresent]
  refine List.map_congr_left fun s hs => ?_
  rw [lowItem, if_pos (of_decide_eq_true (List.mem_filter.1 hs).2)]

/-- **The items of which little was left are told apart by their names.** -/
theorem countDistinct_lowItem (sales : List Sale) :
    Aggregate.countDistinct.apply (sales.map lowItem) =
      .ok (.integer (lowItems sales).length) := by
  have hkeys : Function.Injective fun item : String => (Cell.text item).key :=
    fun _ _ hkey => (Cell.Key.text.inj hkey).1
  have hdedup := List.dedup_map_of_injective hkeys
    ((sales.filter (·.inStock ≤ lowStock)).map Sale.item)
  rw [List.map_map] at hdedup
  have hlength : (distinct ((sales.map lowItem).filter Cell.isPresent)).length =
      (lowItems sales).length := by
    rw [filter_isPresent_lowItem, length_distinct, List.map_map]
    exact (congrArg List.length hdedup).trans (List.length_map _)
  exact congrArg (fun n : Nat => Except.ok (Cell.integer n)) hlength

theorem countDistinct_dates (sales : List Sale) :
    Aggregate.countDistinct.apply (sales.map (Sale.cell · dateColumn)) =
      .ok (.integer (orderCount sales)) := by
  have hpresent : (sales.map (Sale.cell · dateColumn)).filter Cell.isPresent =
      sales.map (Sale.cell · dateColumn) := by
    refine List.filter_eq_self.2 fun c hc => ?_
    obtain ⟨s, -, rfl⟩ := List.mem_map.1 hc
    rfl
  unfold Aggregate.apply orderCount
  dsimp only
  rw [hpresent, length_distinct, length_groupsOf, List.map_map]
  rfl

/-- The cells of the row of totals. -/
def totals (sales : List Sale) : List Cell :=
  [(revenueOf sales).orZero, .integer (orderCount sales), (worthOf sales).orZero,
    .integer (lowItems sales).length]

theorem cellsOf_totals (h : rows.map Row.cells = sales.map Sale.cells) :
    totalsQuery.cellsOf (ofSales sales) rows = .ok (totals sales) := by
  have hworth : Aggregate.sum.apply (sales.map fun s =>
      multiply (s.cell priceColumn) (s.cell stockColumn)) = .ok (worthOf sales) := by
    refine (sum_of_doubles fun c hc => ?_).1
    obtain ⟨s, -, rfl⟩ := List.mem_map.1 hc
    exact s.isDouble_price.multiply _
  have hdates : rows.map (fun row => ((ofSales sales).collation dateColumn).cell
      ((ofSales sales).cell row dateColumn)) = sales.map (Sale.cell · dateColumn) := by
    rw [← map_cell_group h (by decide)]
    exact List.map_congr_left fun row _ => Collation.cell_binary _
  have hlow : rows.map ((Term.whenAtMost stockColumn (.integer lowStock)
      (.column itemColumn)).eval (ofSales sales)) = sales.map lowItem :=
    (map_eval_group h _).trans (List.map_congr_left fun s _ => valueOf_lowItem s)
  refine mapM_ok_cons (eval_orZero ?_) (mapM_ok_cons ?_ (mapM_ok_cons (eval_orZero ?_)
    (mapM_ok_cons ?_ rfl)))
  · exact (congrArg Aggregate.sum.apply (map_product_group h (by decide) (by decide))).trans
      (sum_earned sales)
  · exact (congrArg Aggregate.countDistinct.apply hdates).trans (countDistinct_dates sales)
  · exact (congrArg Aggregate.sum.apply (map_product_group h (by decide) (by decide))).trans hworth
  · exact (congrArg Aggregate.countDistinct.apply hlow).trans (countDistinct_lowItem sales)

/-- The record of the totals. -/
def totalsRow (sales : List Sale) : Json.Fields :=
  Json.Fields.ofList (["total_sales", "total_orders", "inventory_value", "low_stock_items"].zip
    ((totals sales).map Cell.toJson))

/-- **The engine's row of totals.** -/
theorem run_totals (sales : List Sale) :
    totalsQuery.run (ofSales sales) = .ok [totalsRow sales] := by
  have htaken : (totalsQuery.taken (ofSales sales)).map Row.cells = sales.map Sale.cells := by
    rw [taken_ofSales]
    exact congrArg (List.map Sale.cells) (List.filter_true sales)
  unfold Select.run
  rw [Select.rows_of_one_unit (units_of_total rfl) (cellsOf_totals htaken)]
  rfl

theorem get?_totalsRow (sales : List Sale) :
    (totalsRow sales).get? "total_sales" = some (revenueOf sales).orZero.toJson ∧
      (totalsRow sales).get? "total_orders" = some (.integer (orderCount sales)) ∧
      (totalsRow sales).get? "low_stock_items" = some (.integer (lowItems sales).length) := by
  simp [totalsRow, totals, Json.Fields.ofList, Json.Fields.get?_put_self,
    Json.Fields.get?_put_of_ne, Cell.toJson]

/-- A null total is read as zero. -/
theorem number_totalsRow (sales : List Sale) :
    number (totalsRow sales) "total_sales" = (revenueOf sales).shown := by
  unfold number
  rw [(get?_totalsRow sales).1, Option.bind_some]
  cases revenueOf sales <;> rfl

/-- A number of sales fits what a summary has for it. -/
theorem whole_of_le {row : Json.Fields} {key : String} {n : Nat}
    (h : row.get? key = some (.integer n)) (hn : n ≤ greatestNumber) : whole row key = n := by
  have hfits : Fits64 n := by
    unfold greatestNumber at hn
    unfold Fits64
    omega
  unfold whole
  rw [h, Option.bind_some, Json.integer?, if_pos hfits]
  rfl

/-! ## The best item -/

/-- The question which item earned most. -/
def bestItem : ParameterSet where
  xAxis := some "item"
  yAxis := some "total_sales"
  aggregation := .none
  filterColumn := none
  filterValue := none
  sortBy := some "total_sales"
  sortOrder := .descending
  limit := some 1
  timePeriod := none

theorem found_bestItem : category? bestItem ⟨Sale.columns⟩ = some itemColumn ∧
    measure? bestItem ⟨Sale.columns⟩ = some .revenue ∧
    orderTarget? bestItem ⟨Sale.columns⟩ .lenient = some totalSales := by decide +kernel

/-- The query for the best item. -/
def bestQuery : Select where
  outputs := some [plainOutput itemColumn, revenueOutput]
  table := Ledger.table
  conditions := []
  groupBy := some itemColumn
  orderBy := some (totalSales, .descending)
  limit := some 1

theorem select_bestItem (today : Calendar.Date) :
    (compiled bestItem ⟨Sale.columns⟩ today .lenient).select = bestQuery := by
  obtain ⟨hx, hm, horder⟩ := found_bestItem
  unfold compiled
  dsimp only
  rw [hx, hm, horder]
  rfl

theorem asks_bestQuery : Asks bestItem itemColumn .revenue bestQuery := ⟨rfl, rfl, rfl⟩

/-- The items with what they earned, those that earned most first. -/
def ranking (sales : List Sale) : List Measured :=
  order .descending Prod.snd ((groupsOf (Sale.cell · itemColumn)
    (order .descending (Sale.cell · itemColumn) sales)).map fun group => (group, revenueOf group))

theorem rows_bestQuery (sales : List Sale) : bestQuery.rows (ofSales sales) =
    .ok (((ranking sales).take 1).map (Measured.cells itemColumn)) := by
  rw [rows_ordered asks_bestQuery ⟨by decide, nofun⟩ rfl, if_neg (by decide),
    arrangedGroups_of_all rfl rfl, mapM_measured_revenue]
  rfl

/-- **The summary's ranking is that of an analysis**: the names of what is summed up do not matter. -/
theorem rows_topQuery (sales : List Sale) :
    topQuery.rows (ofSales sales) = bestQuery.rows (ofSales sales) :=
  Select.rows_of_renamed (isUnkeyed_ofSales sales) (index?_ofSales (c := itemColumn) (by decide))
    rfl rfl rfl rfl rfl rfl rfl

/-- Where something was sold, there is a best item. -/
theorem exists_best (h : sales ≠ []) : ∃ a rest item, ranking sales = a :: rest ∧
    groupCell itemColumn a.1 = .text item := by
  have hranking := order_perm .descending Prod.snd ((groupsOf (Sale.cell · itemColumn)
    (order .descending (Sale.cell · itemColumn) sales)).map fun group => (group, revenueOf group))
  obtain ⟨s, hs⟩ := List.exists_mem_of_ne_nil sales h
  have hkey : (s.cell itemColumn).key ∈ keysOf (Sale.cell · itemColumn)
      (order .descending (Sale.cell · itemColumn) sales) :=
    (mem_keysOf _).2 ⟨s, (order_perm _ _ sales).mem_iff.2 hs, rfl⟩
  have hsome : ranking sales ≠ [] :=
    List.ne_nil_of_mem (hranking.mem_iff.2 (List.mem_map_of_mem (List.mem_map_of_mem hkey)))
  obtain ⟨a, rest, hbest⟩ := List.exists_cons_of_ne_nil hsome
  have ha : a ∈ ranking sales := by
    rw [hbest]
    exact List.mem_cons_self
  obtain ⟨group, hgroup, rfl⟩ := List.mem_map.1 (hranking.mem_iff.1 ha)
  obtain ⟨first, others, rfl⟩ := List.exists_cons_of_ne_nil (ne_nil_of_mem_groupsOf _ hgroup)
  exact ⟨_, rest, first.item, hbest, rfl⟩

theorem ranking_nil : ranking [] = [] := by
  unfold ranking
  rw [order_eq, order_eq, List.mergeSort_nil]
  exact List.mergeSort_nil

/-- The best item of a record, whatever the name of what it earned. -/
theorem text?_record (name : String) (hname : itemColumn ≠ name) (a : Measured) :
    text? (a.record itemColumn name) itemColumn = (groupCell itemColumn a.1).toJson.text? := by
  unfold text? Measured.record
  rw [(Json.Fields.get?_pair hname _ _).1]
  rfl

theorem normalizeRow_record (a : Measured) : Presentation.normalizeRow
    (a.record itemColumn totalSales) = a.record itemColumn totalSales := by
  unfold Measured.record
  rw [Presentation.normalizeRow_ofList, List.map_cons, List.map_cons, List.map_nil]
  dsimp only
  rw [Presentation.dated_of_ne (by decide), Presentation.dated_of_ne (by decide)]

/-! ## Days with sales -/

/-- The question on which days something was sold. -/
def soldPerDay : ParameterSet where
  xAxis := some "sale_date"
  yAxis := some "quantity_sold"
  aggregation := .count
  filterColumn := none
  filterValue := none
  sortBy := none
  sortOrder := .descending
  limit := none
  timePeriod := none

theorem found_soldPerDay : category? soldPerDay ⟨Sale.columns⟩ = some dateColumn ∧
    measure? soldPerDay ⟨Sale.columns⟩ = some (.column soldColumn) ∧
    orderTarget? soldPerDay ⟨Sale.columns⟩ .lenient = none := by decide +kernel

/-- The query for those days. -/
def datesQuery : Select where
  outputs := some [plainOutput dateColumn, measureOutput soldPerDay (.column soldColumn)]
  table := Ledger.table
  conditions := []
  groupBy := some dateColumn
  orderBy := none
  limit := none

theorem select_soldPerDay (today : Calendar.Date) :
    (compiled soldPerDay ⟨Sale.columns⟩ today .lenient).select = datesQuery := by
  obtain ⟨hx, hm, horder⟩ := found_soldPerDay
  unfold compiled
  dsimp only
  rw [hx, hm, horder]
  rfl

/-! ## Summaries -/

section Held

open Service

variable {config : Config} {d : Disk} {t : Tenant} (hdir : config.HasPlainDirectory)
  (hheld : Store.heldLedger config d t = ofSales sales)
  (hschema : (Store.schema config d t).columns ≠ [])

include hdir hheld hschema

theorem analysis_bestItem (today : Calendar.Date) : analysis config d today t bestItem =
    ((ranking sales).take 1).map fun a => a.record itemColumn totalSales := by
  obtain ⟨-, hcolumns, -⟩ := Store.rows_of_held hdir hheld hschema
  unfold analysis
  rw [fetch_of_held hdir hheld hschema rfl, hcolumns, select_bestItem,
    run_eq asks_bestQuery ⟨by decide, nofun⟩, rows_bestQuery]
  show ((((ranking sales).take 1).map (Measured.cells itemColumn)).map _).map
    Presentation.normalizeRow = _
  rw [List.map_map, List.map_map]
  exact List.map_congr_left fun a _ => normalizeRow_record a

/-- An analysis for the days with sales has as many rows as there are orders. -/
theorem length_analysis_soldPerDay (today : Calendar.Date) :
    (analysis config d today t soldPerDay).length = orderCount sales := by
  obtain ⟨-, hcolumns, -⟩ := Store.rows_of_held hdir hheld hschema
  obtain ⟨cells, hrows, hperm⟩ := rows_of_count (p := soldPerDay) (s := datesQuery) sales rfl rfl
    rfl rfl (by decide) (by decide)
  have hall : passing datesQuery sales = sales := List.filter_true sales
  unfold analysis
  rw [fetch_of_held hdir hheld hschema rfl, hcolumns, select_soldPerDay, Select.run, hrows]
  show ((cells.map _).map Presentation.normalizeRow).length = _
  rw [List.length_map, List.length_map, hperm.length_eq, List.length_map, hall]
  rfl

theorem rows_top_of_held : Store.rows config d t topQuery =
    ((ranking sales).take 1).map fun a => a.record itemColumn "total_item_sales" := by
  rw [(Store.rows_of_held hdir hheld hschema).2.2 topQuery rfl, Select.run, rows_topQuery,
    rows_bestQuery]
  exact List.map_map

/-- **The summary of a ledger that can be read**, told from its sales. -/
theorem summary_of_held (hroom : sales.length ≤ greatestNumber) :
    (summary config d t).totalSales = (revenueOf sales).shown ∧
      (summary config d t).totalOrders = orderCount sales ∧
      (summary config d t).lowStockItems = (lowItems sales).length ∧
      (summary config d t).topSelling = (((ranking sales).head?).bind fun a =>
        (groupCell itemColumn a.1).toJson.text?).getD "N/A" := by
  obtain ⟨hexists, -, hrows⟩ := Store.rows_of_held hdir hheld hschema
  obtain ⟨-, horders, hlow⟩ := get?_totalsRow sales
  have htotals : Store.rows config d t totalsQuery = [totalsRow sales] := by
    rw [hrows totalsQuery rfl, run_totals]
    rfl
  unfold summary
  rw [if_pos hexists, htotals, rows_top_of_held hdir hheld hschema]
  dsimp only
  refine ⟨number_totalsRow sales, whole_of_le horders ((orderCount_le sales).trans hroom),
    whole_of_le hlow ((length_lowItems_le sales).trans hroom), ?_⟩
  cases ranking sales with
  | nil => rfl
  | cons a rest =>
    exact congrArg (Option.getD · Summary.empty.topSelling) (text?_record _ (by decide) a)

end Held

open Service History

/-- **A summary agrees with analyses.** After any run of operations, the summary of a ledger with its
five columns shows the revenue that an analysis answers, or zero where that is null; the item that an
analysis ranks first, if anything was sold; as many orders as an analysis has rows that count the sales of
each date; and how many items have little left in some sale that was appended. -/
theorem summary_agrees {config : Config} {d₀ : Disk} (h : Begins config d₀) (steps : List Step)
    {t : Tenant} (hschema : Store.schema config (after config d₀ steps) t = ⟨Sale.columns⟩) :
    ∃ landed, ((history config d₀ steps).filter Event.succeeded).Sublist landed ∧
      landed.Sublist (history config d₀ steps) ∧
      ∀ today : Calendar.Date,
        (∃ total, analysis config (after config d₀ steps) today t earnedTotal =
            [[(totalSales, total)]] ∧
          (summary config (after config d₀ steps) t).totalSales = total.float?.getD 0) ∧
        (landed.flatMap (Event.batch t) = [] ∧
            analysis config (after config d₀ steps) today t bestItem = [] ∧
            (summary config (after config d₀ steps) t).topSelling = "N/A" ∨
          ∃ row, analysis config (after config d₀ steps) today t bestItem = [row] ∧
            text? row itemColumn = some (summary config (after config d₀ steps) t).topSelling) ∧
        (summary config (after config d₀ steps) t).totalOrders =
          (analysis config (after config d₀ steps) today t soldPerDay).length ∧
        (summary config (after config d₀ steps) t).lowStockItems =
          (((landed.flatMap (Event.batch t)).filter (·.inStock ≤ 5)).map Sale.item).dedup.length := by
  obtain ⟨landed, hok, hlanded, hheld⟩ := exists_landed h steps
  refine ⟨landed, hok, hlanded, fun today => ?_⟩
  have hledger := hheld t
  have hroom := length_sales_le h steps hledger
  generalize after config d₀ steps = d at *
  generalize landed.flatMap (Event.batch t) = sales at *
  have hcolumns : (Store.schema config d t).columns ≠ [] := by
    rw [hschema]
    decide
  obtain ⟨htotal, horders, hlow, htop⟩ := summary_of_held h.directory hledger hcolumns hroom
  refine ⟨⟨_, ?_, htotal⟩, ?_, ?_, hlow⟩
  · have hall : (sales.filter fun sale => (conditions earnedTotal ⟨Sale.columns⟩ today).all
        sale.meets) = sales := List.filter_true sales
    rw [analysis_of_total h.directory hledger hcolumns rfl rfl rfl, hall]
  · rw [analysis_bestItem h.directory hledger hcolumns, htop]
    by_cases hnone : sales = []
    · rw [hnone, ranking_nil]
      exact .inl ⟨rfl, rfl, rfl⟩
    · obtain ⟨a, rest, item, hranking, hitem⟩ := exists_best hnone
      rw [hranking]
      refine .inr ⟨_, rfl, (text?_record _ (by decide) a).trans ?_⟩
      rw [List.head?_cons, Option.bind_some, hitem]
      rfl
  · rw [horders, length_analysis_soldPerDay h.directory hledger hcolumns]

/-- Rice is sold until little is left, on the day on which oil was sold. -/
def lastRice : Sale := ⟨"Rice", 100, 3, 47, oil.date, by decide, by decide⟩
def sellingOut : List Step := [⟨.record vendor [oil, rice, lastRice], []⟩]

/-- Of the two items one has little left, and it is the one that earned more. -/
theorem summary_agrees_sellingOut :
    (∃ total, analysis shop (after shop blank sellingOut) marketDay vendor earnedTotal =
        [[("total_sales", total)]] ∧
      (summary shop (after shop blank sellingOut) vendor).totalSales = total.float?.getD 0) ∧
    (∃ row, analysis shop (after shop blank sellingOut) marketDay vendor bestItem = [row] ∧
      text? row "item" = some (summary shop (after shop blank sellingOut) vendor).topSelling) ∧
    (summary shop (after shop blank sellingOut) vendor).totalOrders =
      (analysis shop (after shop blank sellingOut) marketDay vendor soldPerDay).length ∧
    (summary shop (after shop blank sellingOut) vendor).lowStockItems = 1 := by
  have hschema : Store.schema shop (after shop blank sellingOut) vendor = ⟨Sale.columns⟩ := by
    decide +kernel
  obtain ⟨landed, hok, hlanded, hagrees⟩ := summary_agrees begins_blank sellingOut hschema
  have hall : (history shop blank sellingOut).all Event.succeeded = true := by decide +kernel
  have hlandedAll := flatMap_batch_of_complete (t := vendor) hok hlanded fun e he _ =>
    List.all_eq_true.1 hall e he
  have hsales : landed.flatMap (Event.batch vendor) = [oil, rice, lastRice] := by
    rw [hlandedAll, List.filter_eq_self.2 (List.all_eq_true.1 hall)]
    rfl
  rw [hsales] at hagrees
  obtain ⟨htotal, hbest, horders, hlow⟩ := hagrees marketDay
  exact ⟨htotal, hbest.resolve_left (fun hnone => nomatch hnone.1), horders, hlow⟩

end Dashboard

end SalesLedger
