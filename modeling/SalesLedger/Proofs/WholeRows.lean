import SalesLedger.Proofs.Charts
import SalesLedger.Proofs.Meeting
import SalesLedger.Proofs.Rounding

/-!
# Whole rows

A query that names nothing to select, to group or to order by answers with whole rows, in the order
in which the sales were appended: `run_of_whole`. What a caller sees of a sale then is
`Sale.fields`: the five values that were appended, but for a price of minus zero, which has lost its
sign, and a price that is infinite or no number, which is none.

* `analysis_of_whole`: an analysis without axes has the first of the sales that meet its conditions.
-/

namespace SalesLedger

open Storage Sql Ledger

/-! ## Sales as they are read -/

/-- The price of a sale as it is read: of the two zeros there is one. -/
def Sale.shownPrice (s : Sale) : Json :=
  if s.price.isFinite then .real (if s.price = -0.0 then 0 else s.price) else .null

/-- The fields of a sale as they are read. -/
def Sale.fields (s : Sale) : Json.Fields :=
  [("item", .text s.item), ("price", s.shownPrice), ("quantity_in_stock", .integer s.inStock),
    ("quantity_sold", .integer s.sold), ("sale_date", .text s.date.text)]

theorem Sale.toJson_price (s : Sale) :
    (Affinity.oneZero (Cell.ofFloat s.price)).toJson = s.shownPrice := by
  have hzero : (0 : Float).isFinite = true ∧ (-0.0 : Float).isFinite = true := by decide
  unfold Cell.ofFloat shownPrice
  by_cases hnan : s.price.isNaN = true
  · have hinfinite : ¬ s.price.isFinite = true := fun h => by
      rw [Decimal.Binary64.not_isNaN_of_isFinite h] at hnan
      cases hnan
    rw [if_pos hnan, if_neg hinfinite]
    rfl
  · rw [if_neg hnan, Affinity.oneZero]
    by_cases hunits : Decimal.Binary64.units s.price = 0
    · rw [if_pos hunits]
      show Json.ofFloat 0 = _
      rw [Json.ofFloat, if_pos hzero.1]
      rcases Decimal.Binary64.units_eq_zero_iff.1 hunits with hprice | hprice
      · rw [hprice, if_pos hzero.1, ite_id]
      · rw [hprice, if_pos hzero.2, if_pos rfl]
    · have hne : s.price ≠ -0.0 := fun h => hunits (Decimal.Binary64.units_eq_zero_iff.2 (.inr h))
      rw [if_neg hunits, if_neg hne]
      rfl

/-- **The row of a sale has the fields that were appended.** -/
theorem normalizeRow_cells (s : Sale) :
    Presentation.normalizeRow (Json.Fields.ofList (Sale.columns.zip (s.cells.map Cell.toJson))) =
      s.fields := by
  have hfields : Sale.columns.zip (s.cells.map Cell.toJson) = s.fields := by
    show [_, ("price", _), _, _, _] = _
    rw [s.toJson_price]
    rfl
  have hdated : s.fields.map (fun f => (f.1, Presentation.dated f.1 f.2)) = s.fields := by
    simp only [Sale.fields, List.map_cons, List.map_nil]
    rw [Presentation.dated_of_ne (by decide), Presentation.dated_of_ne (by decide),
      Presentation.dated_of_ne (by decide), Presentation.dated_of_ne (by decide),
      Presentation.dated, if_pos (by decide), Presentation.normalizeDate_text]
  have hascending : Json.Fields.IsAscending s.fields := by
    show Sale.columns.Pairwise (· < ·)
    decide
  rw [Presentation.normalizeRow_ofList, hfields, hdated,
    Json.Fields.ofList_of_isAscending hascending]

namespace Query

/-! ## Queries for whole rows -/

variable {s : Select} {sales : List Sale}

/-- A query that asks for nothing but rows. -/
structure IsWhole (s : Select) : Prop where
  outputs : s.outputs = none
  groupBy : s.groupBy = none
  orderBy : s.orderBy = none

/-- The first values, as many as a cap allows. -/
def firstOf {α : Type} (limit : Option Nat) (xs : List α) : List α :=
  match limit with
  | some n => xs.take n
  | none => xs

theorem firstOf_nil {α : Type} (limit : Option Nat) : firstOf limit ([] : List α) = [] := by
  cases limit with
  | none => rfl
  | some n => exact List.take_nil

theorem capped_map {α β : Type} (s : Select) (f : α → β) (xs : List α) :
    s.capped (xs.map f) = (s.capped xs).map f := by
  unfold Select.capped
  split
  · exact List.map_take.symm
  · rfl

theorem answerColumns_of_whole (h : IsWhole s) :
    s.answerColumns (ofSales sales) = Sale.columns.map plainOutput := by
  unfold Select.answerColumns
  rw [h.outputs]
  rfl

/-- Where the columns of a ledger are asked for, the row of a sale has the cells of the sale. -/
theorem cellsOf_of_columns (h : s.answerColumns (ofSales sales) = Sale.columns.map plainOutput)
    {rows : List Row} {sale : Sale} (hrows : rows.map Row.cells = [sale.cells]) :
    s.cellsOf (ofSales sales) rows = .ok sale.cells := by
  obtain ⟨row, rfl, hrow⟩ := List.map_eq_singleton_iff.1 hrows
  have hcells : s.cellsOf (ofSales sales) [row] =
      .ok (Sale.columns.map fun c => row.cells.getD (Sale.columns.idxOf c) .null) := by
    unfold Select.cellsOf
    rw [h, List.mapM_map]
    exact mapM_eq_ok fun c hc => congrArg Except.ok (cell_ofSales hc row)
  rw [hcells, hrow]
  rfl

/-- The answer's columns then go by the ledger's names. -/
theorem outputNames_of_columns
    (h : s.answerColumns (ofSales sales) = Sale.columns.map plainOutput) :
    (s.answerColumns (ofSales sales)).map (Select.outputName (ofSales sales)) =
      Sale.columns := by
  have hname : ∀ c ∈ Sale.columns,
      (Select.outputName (ofSales sales) ∘ plainOutput) c = id c :=
    fun c hc => outputName_plain hc
  rw [h, List.map_map, List.map_congr_left hname, List.map_id]

theorem rows_of_whole (h : IsWhole s) (sales : List Sale) :
    s.rows (ofSales sales) = .ok ((s.capped (passing s sales)).map Sale.cells) := by
  have horder : s.inGroupOrder (ofSales sales) = true := by
    unfold Select.inGroupOrder
    rw [h.orderBy]
  have hplain : s.isSummary = false := by
    unfold Select.isSummary
    rw [h.groupBy, h.outputs]
    rfl
  have hunits := congrArg s.capped (units_of_plain hplain sales)
  rw [capped_map, capped_map] at hunits
  rw [Select.rows_of_groupOrder horder]
  exact (mapM_of_map hunits fun _ _ hrows => cellsOf_of_columns (answerColumns_of_whole h)
    hrows).trans (mapM_eq_ok fun _ _ => rfl)

/-- **A query for whole rows** answers with the first of the sales that meet its conditions. -/
theorem run_of_whole (h : IsWhole s) (sales : List Sale) :
    s.run (ofSales sales) = .ok ((s.capped (passing s sales)).map fun sale =>
      Json.Fields.ofList (Sale.columns.zip (sale.cells.map Cell.toJson))) := by
  unfold Select.run
  rw [outputNames_of_columns (answerColumns_of_whole h), rows_of_whole h]
  simp only [bind, Except.bind, pure, Except.pure, List.map_map, Function.comp_def]

theorem isWhole_compiled {p : ParameterSet} (hx : p.xAxis = none) (hy : p.yAxis = none)
    (hsort : p.sortBy = none) (schema : Schema) (today : Calendar.Date) :
    IsWhole (compiled p schema today .lenient).select := by
  have hcategory : category? p schema = none := by
    rw [category?, hx]
    rfl
  have hmeasure : measure? p schema = none := by
    rw [measure?, hy]
    rfl
  unfold compiled
  dsimp only
  rw [hcategory, hmeasure]
  refine ⟨rfl, rfl, ?_⟩
  dsimp only
  rw [orderTarget?, orderName?, hsort]
  rfl

end Query

namespace Service

open Query

variable {config : Config} {d : Disk} {t : Tenant} {sales : List Sale} {p : ParameterSet}

/-- **An analysis without axes** has the first of the sales that meet its conditions, with the
fields that were appended. -/
theorem analysis_of_whole (hdir : config.HasPlainDirectory)
    (hheld : Store.heldLedger config d t = ofSales sales)
    (hschema : (Store.schema config d t).columns ≠ []) (hx : p.xAxis = none) (hy : p.yAxis = none)
    (hsort : p.sortBy = none) (today : Calendar.Date) :
    analysis config d today t p =
      (firstOf p.limit (sales.filter fun sale =>
        (conditions p ⟨Sale.columns⟩ today).all sale.meets)).map Sale.fields := by
  obtain ⟨-, hcolumns, -⟩ := Store.rows_of_held hdir hheld hschema
  unfold analysis
  rw [fetch_of_held hdir hheld hschema rfl, hcolumns,
    run_of_whole (isWhole_compiled hx hy hsort ⟨Sale.columns⟩ today)]
  simp only [Except.toOption, Option.getD_some, List.map_map, Function.comp_def,
    normalizeRow_cells]
  rfl

/-- A ledger that has no columns to read has no rows either. -/
theorem analysis_of_no_columns (hdir : config.HasPlainDirectory)
    (hheld : Store.heldLedger config d t = ofSales sales)
    (hnone : (Store.schema config d t).columns = []) (today : Calendar.Date) (p : ParameterSet) :
    analysis config d today t p = [] := by
  unfold analysis fetch Service.compile
  rw [compile_lenient]
  split
  · exact congrArg Presentation.normalizeDates (Store.rows_of_no_columns hdir hheld hnone rfl)
  · rfl

end Service

end SalesLedger
