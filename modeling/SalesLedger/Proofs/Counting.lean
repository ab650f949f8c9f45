import SalesLedger.Proofs.Charts
import SalesLedger.Proofs.Meeting

/-!
# Counting sales

What an analysis answers that counts the sales of each category. `count_tallied`: it has a record
for every group of sales that meet the window and the filter, and the record has the number of
them, with two exceptions. A price that is no number is kept as nothing, which is not counted. And
where the dates are counted, the number goes by the name of the date; what is no date is then taken
out of the record.
-/

namespace SalesLedger.Service

open Storage Sql Ledger Query History

/-! ## Records of groups -/

/-- Whether a sale has a value under a column: only what is no number is no price. -/
def hasValue (y : String) (s : Sale) : Bool := y ≠ priceColumn || !s.price.isNaN

/-- The record of a group of sales: the value that they share, and under the counted column how many
have a value there. Under the date there is no number. -/
def tally (x y : String) (group : List Sale) : Json.Fields :=
  Json.Fields.ofList
    [(x, (((group.head?).map (Sale.cell · x)).getD .null).toJson),
      (y, if y = dateColumn then .null else .integer (group.countP (hasValue y)))]

variable {x y : String}

theorem isPresent_cell (hy : y ∈ Sale.columns) (s : Sale) :
    (s.cell y).isPresent = hasValue y s := by
  have hprice : (Affinity.oneZero (Cell.ofFloat s.price)).isPresent = !s.price.isNaN := by
    unfold Cell.ofFloat
    split
    · rename_i hnan
      rw [hnan]
      rfl
    · rename_i hnumber
      rw [Bool.not_eq_true] at hnumber
      rw [hnumber]
      unfold Affinity.oneZero
      dsimp only
      split <;> rfl
  simp only [Sale.columns, List.mem_cons, List.not_mem_nil, or_false] at hy
  rcases hy with rfl | rfl | rfl | rfl | rfl
  · rfl
  · exact hprice
  · rfl
  · rfl
  · rfl

/-- A sale's date is in its usual form, and nothing else of it is taken for a date. -/
theorem dated_cell (s : Sale) (c : String) :
    Presentation.dated c (s.cell c).toJson = (s.cell c).toJson := by
  unfold Presentation.dated
  split
  · rename_i hc
    subst hc
    exact Presentation.normalizeDate_text s.date
  · rfl

/-- The cells of the answer's row for a group. -/
def countCells (x y : String) (group : List (List Cell)) : List Cell :=
  [categoryOf x group,
    .integer (group.countP fun cells => (cells.getD (Sale.columns.idxOf y) .null).isPresent)]

/-- **The record of a group** is its tally. -/
theorem record_countCells (hy : y ∈ Sale.columns) {group : List Sale} (hgroup : group ≠ []) :
    record x y (countCells x y (group.map Sale.cells)) = tally x y group := by
  obtain ⟨s, rest, rfl⟩ := List.exists_cons_of_ne_nil hgroup
  have hcount : ((s :: rest).map Sale.cells).countP
      (fun cells => (cells.getD (Sale.columns.idxOf y) .null).isPresent) =
      (s :: rest).countP (hasValue y) := by
    rw [List.countP_map]
    exact congrArg (List.countP · (s :: rest)) (funext (isPresent_cell hy))
  unfold countCells tally
  rw [hcount, record_eq]
  show Json.Fields.put y (Presentation.dated y (.integer _)) (Json.Fields.put x _ []) =
    Json.Fields.put y _ (Json.Fields.put x _ [])
  exact congrArg₂ (fun v w => Json.Fields.put y w (Json.Fields.put x v [])) (dated_cell s x) rfl

/-! ## Answers -/

variable {p : ParameterSet} {sales : List Sale}

/-- **Counting always has an answer.** -/
theorem cellsOf_count {s : Select} (hcount : p.aggregation = .count)
    (houtputs : s.outputs = some [plainOutput x, measureOutput p (.column y)])
    (hx : x ∈ Sale.columns) (hy : y ∈ Sale.columns) (rows : List Row) :
    s.cellsOf (ofSales sales) rows = .ok (countCells x y (rows.map Row.cells)) := by
  have hmeasure : (measureOutput p (.column y)).selection.eval (ofSales sales) rows =
      .ok (.integer ((rows.map Row.cells).countP
        fun cells => (cells.getD (Sale.columns.idxOf y) .null).isPresent)) := by
    have hcells : rows.map ((Term.column y).eval (ofSales sales)) =
        (rows.map Row.cells).map fun cells => cells.getD (Sale.columns.idxOf y) .null := by
      rw [List.map_map]
      exact List.map_congr_left fun row _ => cell_ofSales hy row
    unfold measureOutput
    rw [hcount]
    show Except.ok (Cell.integer (((rows.map ((Term.column y).eval (ofSales sales))).filter
      Cell.isPresent).length)) = _
    rw [hcells, ← List.countP_eq_length_filter, List.countP_map]
    rfl
  unfold Select.cellsOf Select.answerColumns
  rw [houtputs, Option.getD_some]
  exact mapM_ok_cons (eval_plainOutput hx rows) (mapM_ok_cons hmeasure rfl)

/-- **A query that counts answers with a row for each group** of the sales that it takes. -/
theorem rows_of_count {s : Select} (sales : List Sale) (hcount : p.aggregation = .count)
    (houtputs : s.outputs = some [plainOutput x, measureOutput p (.column y)])
    (hgroup : s.groupBy = some x) (hlimit : s.limit = none)
    (hx : x ∈ Sale.columns) (hy : y ∈ Sale.columns) :
    ∃ cells, s.rows (ofSales sales) = .ok cells ∧
      cells.Perm ((groupsOf (Sale.cell · x) (passing s sales)).map
        fun group => countCells x y (group.map Sale.cells)) := by
  have hunits : s.units (ofSales sales) = s.groups (ofSales sales) := by
    unfold Select.units Select.isSummary
    rw [hgroup]
    rfl
  obtain ⟨cells, hrows, hperm⟩ := Select.rows_of_total (t := ofSales sales) hlimit
    (f := fun rows => countCells x y (rows.map Row.cells))
    fun rows _ => cellsOf_count hcount houtputs hx hy rows
  refine ⟨cells, hrows, hperm.trans ?_⟩
  have hgroups : (s.groups (ofSales sales)).map (fun rows => countCells x y (rows.map Row.cells)) =
      ((groupsOf (Sale.cell · x) (aligned s x sales)).map (List.map Sale.cells)).map
        (countCells x y) := by
    rw [← groups_ofSales hx hgroup, List.map_map]
    rfl
  rw [hunits, hgroups, List.map_map]
  exact (aligned_groups_perm s x sales).map _

/-- **The counts of an analysis.** After any run of operations, where two columns are found and the
one is counted by the other without a cap, there is a record for every group of sales that meet the
window and the filter, and no other. -/
theorem count_tallied {config : Config} {d₀ : Disk} (h : Begins config d₀) (steps : List Step)
    (t : Tenant) :
    ∃ landed, ((history config d₀ steps).filter Event.succeeded).Sublist landed ∧
      landed.Sublist (history config d₀ steps) ∧
      ∀ (today : Calendar.Date) (p : ParameterSet) (x y : String),
        category? p (Store.schema config (after config d₀ steps) t) = some x →
        measure? p (Store.schema config (after config d₀ steps) t) = some (.column y) →
        p.aggregation = .count → p.limit = none →
        (analysis config (after config d₀ steps) today t p).Perm
          ((groupsOf (Sale.cell · x) ((landed.flatMap (Event.batch t)).filter fun sale =>
            (conditions p ⟨Sale.columns⟩ today).all sale.meets)).map (tally x y)) := by
  obtain ⟨landed, hok, hlanded, hheld⟩ := exists_landed h steps
  refine ⟨landed, hok, hlanded, fun today p x y hx hm hcount hlimit => ?_⟩
  have hledger := hheld t
  generalize after config d₀ steps = d at *
  have hcolumns := columns_ne_nil_of_category hx
  obtain ⟨-, hschema, -⟩ := Store.rows_of_held h.directory hledger hcolumns
  have ha : AreFound x (.column y) := areFound_of_found (hschema ▸ hx) (hschema ▸ hm)
  have hy : y ∈ Sale.columns := ha.measure y rfl
  generalize landed.flatMap (Event.batch t) = sales at hledger
  have houtputs : (compiled p (Store.schema config d t) today .lenient).select.outputs =
      some [plainOutput x, measureOutput p (.column y)] := by
    unfold compiled
    dsimp only
    rw [hx, hm]
    exact outputs?_eq p x (.column y)
  have hgroup : (compiled p (Store.schema config d t) today .lenient).select.groupBy = some x := by
    unfold compiled
    dsimp only
    rw [hx, hm, groupBy?_eq, isSummed, hcount]
    rfl
  obtain ⟨cells, hrows, hperm⟩ := rows_of_count sales hcount houtputs hgroup hlimit
    ha.category hy
  unfold analysis
  rw [fetch_eq h.directory hledger hcolumns rfl (outputNames_of_outputs houtputs ha), hrows]
  refine (hperm.map _).trans ?_
  rw [List.map_map, ← hschema]
  refine .of_eq (List.map_congr_left fun group hmem => ?_)
  exact record_countCells hy (ne_nil_of_mem_groupsOf _ hmem)

/-- The question on how many days each item was sold. -/
def daysSold : ParameterSet where
  xAxis := some "item"
  yAxis := some "sale_date"
  aggregation := .count
  filterColumn := none
  filterValue := none
  sortBy := none
  sortOrder := .descending
  limit := none
  timePeriod := none

/-- Two items were sold on one day each, and the records of both have no number. -/
theorem count_tallied_daysSold :
    (analysis shop oilThenRice marketDay vendor daysSold).Perm
      [[("item", .text "Oil"), ("sale_date", .null)],
        [("item", .text "Rice"), ("sale_date", .null)]] := by
  obtain ⟨landed, hok, hlanded, hcounts⟩ := count_tallied begins_blank
    [⟨.record vendor [oil, rice], []⟩] vendor
  have hall : (history shop blank [⟨.record vendor [oil, rice], []⟩]).all Event.succeeded = true :=
    by decide
  have hfound : category? daysSold ⟨Sale.columns⟩ = some "item" ∧
      measure? daysSold ⟨Sale.columns⟩ = some (.column "sale_date") := by decide
  have hschema : Store.schema shop (after shop blank [⟨.record vendor [oil, rice], []⟩]) vendor =
      ⟨Sale.columns⟩ := read_oilThenRice.2
  have hperm := hcounts marketDay daysSold "item" "sale_date" (hschema ▸ hfound.1)
    (hschema ▸ hfound.2) rfl rfl
  rw [List.filter_eq_self.2 (List.all_eq_true.1 hall)] at hok
  rw [hlanded.antisymm hok] at hperm
  exact hperm

end SalesLedger.Service
