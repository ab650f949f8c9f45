import SalesLedger.Proofs.NoData

/-!
# Revenue

What sales earned. A price is kept as a double, so what it is multiplied to is a double or nothing,
and a sum of such cells is never a fault: `sum_of_doubles`. The revenue of some sales is therefore
one cell, `revenueOf`, whatever the query that asks for it.

* `analysis_of_total`: an analysis for the revenue of all sales has one row, with their revenue.
-/

namespace SalesLedger

open Storage Sql Ledger

/-! ## Sums of doubles -/

namespace Sql

/-- A double, or nothing. -/
def Cell.IsDouble (c : Cell) : Prop := c = .null ∨ ∃ x, c = .real x

theorem Cell.isDouble_ofFloat (x : Float) : (Cell.ofFloat x).IsDouble := by
  unfold Cell.ofFloat
  split
  · exact .inl rfl
  · exact .inr ⟨x, rfl⟩

theorem Cell.IsDouble.oneZero {c : Cell} (h : c.IsDouble) : (Affinity.oneZero c).IsDouble := by
  obtain rfl | ⟨x, rfl⟩ := h
  · exact .inl rfl
  · unfold Affinity.oneZero
    dsimp only
    split
    · exact .inr ⟨0, rfl⟩
    · exact .inr ⟨x, rfl⟩

/-- What a double is multiplied to is one. -/
theorem Cell.IsDouble.multiply {a : Cell} (h : a.IsDouble) (b : Cell) : (multiply a b).IsDouble := by
  unfold Sql.multiply Arithmetic.apply
  split
  · exact .inl rfl
  · rename_i hnull
    obtain rfl | ⟨x, rfl⟩ := h
    · exact absurd (.inl rfl) hnull
    · exact isDouble_ofFloat _

/-- A cell as a view shows it: zero, where it is no number that JSON can write. -/
def Cell.shown (c : Cell) : Float := (c.toJson.float?).getD 0

/-- What some cells sum up to; nothing, where that is a fault. -/
def total (cells : List Cell) : Cell := (Aggregate.sum.apply cells).toOption.getD .null

/-- **A sum of doubles is never a fault**: it is a double again, or nothing. -/
theorem sum_of_doubles {cells : List Cell} (h : ∀ c ∈ cells, c.IsDouble) :
    Aggregate.sum.apply cells = .ok (total cells) ∧ (total cells).IsDouble := by
  suffices hsum : ∃ c, Aggregate.sum.apply cells = .ok c ∧ c.IsDouble by
    obtain ⟨c, hc, hdouble⟩ := hsum
    rw [total, hc]
    exact ⟨rfl, hdouble⟩
  unfold Aggregate.apply Aggregate.sumOf
  dsimp only
  rcases List.eq_nil_or_concat' (cells.filter Cell.isPresent) with hnone | ⟨front, last, hpresent⟩
  · rw [hnone]
    exact ⟨.null, rfl, .inl rfl⟩
  · -- the last double makes the total a double
    have hlast : last ∈ cells.filter Cell.isPresent := by
      rw [hpresent]
      exact List.mem_append_right _ List.mem_cons_self
    obtain ⟨hmem, hsome⟩ := List.mem_filter.1 hlast
    obtain rfl | ⟨x, rfl⟩ := h last hmem
    · cases hsome
    · have htotal : ∃ s, Total.of (front ++ [.real x]) = .approximate s false := by
        rw [Total.of, List.foldl_append]
        cases front.foldl Total.add (.whole 0) with
        | whole n => exact ⟨_, rfl⟩
        | approximate s overflowed => exact ⟨_, rfl⟩
      obtain ⟨s, hs⟩ := htotal
      rw [hpresent, if_neg (by simp), hs]
      exact ⟨_, rfl, Cell.isDouble_ofFloat _⟩

end Sql

/-! ## Sales -/

theorem Sale.isDouble_price (s : Sale) : (s.cell Query.priceColumn).IsDouble :=
  (Cell.isDouble_ofFloat s.price).oneZero

/-- What a sale earned: its price times its number. -/
def Sale.earned (s : Sale) : Cell := multiply (s.cell Query.priceColumn) (s.cell Query.soldColumn)

/-- What some sales earned, added up in their order; nothing, where there is nothing to add up. -/
def revenueOf (sales : List Sale) : Cell := total (sales.map Sale.earned)

theorem isDouble_of_mem_earned {sales : List Sale} {c : Cell} (h : c ∈ sales.map Sale.earned) :
    c.IsDouble := by
  obtain ⟨s, -, rfl⟩ := List.mem_map.1 h
  exact s.isDouble_price.multiply _

/-- **The revenue of some sales can always be worked out.** -/
theorem sum_earned (sales : List Sale) :
    Aggregate.sum.apply (sales.map Sale.earned) = .ok (revenueOf sales) :=
  (sum_of_doubles fun _ => isDouble_of_mem_earned).1

/-- It is never a whole number or a text. -/
theorem isDouble_revenueOf (sales : List Sale) : (revenueOf sales).IsDouble :=
  (sum_of_doubles fun _ => isDouble_of_mem_earned).2

namespace Query

variable {p : ParameterSet} {s : Select} {sales group : List Sale}

theorem measureOf_revenue (p : ParameterSet) (group : List Sale) :
    measureOf p .revenue group = .ok (revenueOf group) := sum_earned group

/-- Every group can be measured. -/
theorem mapM_measured_revenue (p : ParameterSet) (groups : List (List Sale)) :
    groups.mapM (measured p .revenue) = .ok (groups.map fun group => (group, revenueOf group)) :=
  mapM_eq_ok fun group _ => by
    unfold measured
    rw [measureOf_revenue]
    rfl

/-- The revenue of the rows of some sales, under whatever name. -/
theorem eval_revenue_group {rows : List Row} (h : rows.map Row.cells = group.map Sale.cells) :
    (Selection.aggregate .sum (.product (.column priceColumn) (.column soldColumn))).eval
      (ofSales sales) rows = .ok (revenueOf group) :=
  (congrArg Aggregate.sum.apply (map_product_group h (by decide) (by decide))).trans
    (sum_earned group)

theorem units_of_total {t : Table} (h : s.isTotal = true) : s.units t = [s.taken t] := by
  obtain ⟨hsummary, hnone⟩ := Bool.and_eq_true_iff.1 h
  unfold Select.units Select.groups
  rw [hsummary, if_pos rfl, Option.isNone_iff_eq_none.1 hnone]

end Query

namespace Service

open Query

/-- **An analysis for the revenue of all sales** has one row, with the revenue of those that meet its
conditions. -/
theorem analysis_of_total {config : Config} {d : Disk} {t : Tenant} {sales : List Sale}
    {p : ParameterSet} (hdir : config.HasPlainDirectory)
    (hheld : Store.heldLedger config d t = ofSales sales)
    (hschema : (Store.schema config d t).columns ≠ [])
    (hx : category? p ⟨Sale.columns⟩ = none) (hm : measure? p ⟨Sale.columns⟩ = some .revenue)
    (hlimit : p.limit = none) (today : Calendar.Date) :
    analysis config d today t p = [[(totalSales, (revenueOf (sales.filter fun sale =>
      (conditions p ⟨Sale.columns⟩ today).all sale.meets)).toJson)]] := by
  obtain ⟨-, hcolumns, -⟩ := Store.rows_of_held hdir hheld hschema
  have htotal := (isTotal_compiled_iff p ⟨Sale.columns⟩ today).2 ⟨hx, hm⟩
  have hanswer := answerColumns_of_total hx hm today (ofSales sales)
  have htaken := taken_ofSales (compiled p ⟨Sale.columns⟩ today .lenient).select sales
  have hcells : (compiled p ⟨Sale.columns⟩ today .lenient).select.cellsOf (ofSales sales)
      ((compiled p ⟨Sale.columns⟩ today .lenient).select.taken (ofSales sales)) =
      .ok [revenueOf (passing (compiled p ⟨Sale.columns⟩ today .lenient).select sales)] := by
    unfold Select.cellsOf
    rw [hanswer]
    exact mapM_ok_cons (eval_revenue_group htaken) rfl
  have hrows := Select.rows_of_one_unit (units_of_total htotal) hcells
  have hcap : (compiled p ⟨Sale.columns⟩ today .lenient).select.limit = p.limit := rfl
  rw [hcap, hlimit, if_neg (by simp)] at hrows
  unfold analysis
  rw [fetch_of_held hdir hheld hschema rfl, hcolumns, Select.run, hrows, hanswer,
    passing_compiled]
  rfl

/-- The question how much was earned. -/
def earnedTotal : ParameterSet where
  xAxis := none
  yAxis := some "total_sales"
  aggregation := .none
  filterColumn := none
  filterValue := none
  sortBy := none
  sortOrder := .descending
  limit := none
  timePeriod := none

end Service

end SalesLedger
