import SalesLedger.Proofs.LedgerTable
import SalesLedger.Proofs.Querying
import SalesLedger.Proofs.Ranking
import SalesLedger.Query.Compile

/-!
# Measuring sales

What a query with a category and a measure answers from a ledger of sales: two columns, the category
and the measure, in a row for each group or each sale.

* `select_strict`: a strict caller's query is the lenient one in the order of the measure, capped.
* `answer_arranged`: what a row is ordered by is its second cell.
* `cells_of_unit`: a row has two cells, of which the second can be read.
-/

namespace SalesLedger.Query

open Sql Ledger

/-! ## The query -/

/-- Whether the measure is summed up. -/
def isSummed (p : ParameterSet) : Measure → Bool
  | .revenue => true
  | .column _ => (aggregateOf p.aggregation).isSome

/-- The measure as a column of the answer. -/
def measureOutput (p : ParameterSet) : Measure → Output
  | .revenue => revenueOutput
  | .column y =>
    match aggregateOf p.aggregation with
    | some a => ⟨.aggregate a (.column y), some y⟩
    | none => plainOutput y

/-- A query of a measure by a category, neither ordered nor capped. -/
structure Measures (p : ParameterSet) (x : String) (m : Measure) (s : Select) : Prop where
  outputs : s.outputs = some [plainOutput x, measureOutput p m]
  table : s.table = Ledger.table
  groupBy : s.groupBy = if isSummed p m then some x else none
  orderBy : s.orderBy = none
  limit : s.limit = none

variable {p : ParameterSet} {schema : Schema} {x : String} {m : Measure}

theorem outputs?_eq (p : ParameterSet) (x : String) (m : Measure) :
    outputs? p (some m) (some x) = some [plainOutput x, measureOutput p m] := by
  cases m with
  | revenue => rfl
  | column y =>
    unfold outputs? measureOutput
    cases aggregateOf p.aggregation with
    | none => rfl
    | some a => rfl

theorem groupBy?_eq (p : ParameterSet) (x : String) (m : Measure) :
    groupBy? p (some m) (some x) = if isSummed p m then some x else none := by
  cases m with
  | revenue => rfl
  | column y =>
    unfold groupBy? isSummed
    cases aggregateOf p.aggregation with
    | none => rfl
    | some a => rfl

theorem measureName?_eq (x : String) (m : Measure) :
    measureName? (some m) (some x) = some m.name := by
  cases m <;> rfl

/-- A strict caller for whom both axes are found is not refused. -/
theorem isRefused_of_found (hx : category? p schema = some x) (hm : measure? p schema = some m) :
    isRefused p schema .strict = false := by
  unfold isRefused
  rw [hx, hm, measureName?_eq]
  rfl

/-- A lenient caller without a cap and without a column to sort by. -/
theorem measures_lenient (hsort : p.sortBy = none) (hx : category? p schema = some x)
    (hm : measure? p schema = some m) (today : Calendar.Date) :
    Measures p x m (compiled { p with limit := none } schema today .lenient).select := by
  have hx' : category? { p with limit := none } schema = some x := hx
  have hm' : measure? { p with limit := none } schema = some m := hm
  refine ⟨?_, rfl, ?_, ?_, rfl⟩
  · unfold compiled
    dsimp only
    rw [hx', hm']
    exact outputs?_eq p x m
  · unfold compiled
    dsimp only
    rw [hx', hm']
    exact groupBy?_eq p x m
  · unfold compiled orderTarget? orderName?
    dsimp only
    rw [hsort]
    rfl

/-- **A strict caller's query** is that of a lenient one, in the order of the measure and capped. -/
theorem select_strict (hsort : p.sortBy = none) (hx : category? p schema = some x)
    (hm : measure? p schema = some m) (today : Calendar.Date) :
    (compiled p schema today .strict).select =
      (compiled { p with limit := none } schema today .lenient).select.arranged m.name p.sortOrder
        (p.limit.getD defaultLimit) := by
  have horder : orderTarget? p schema .strict = some m.name := by
    unfold orderTarget? orderName?
    dsimp only
    rw [hsort, hx, hm, measureName?_eq]
    rfl
  unfold compiled
  dsimp only
  rw [horder]
  rfl

/-! ## Columns -/

theorem column_facts : ∀ c ∈ Sale.columns,
    emptyLedger.index? c = some (Sale.columns.idxOf c) ∧
      (emptyLedger.columns[Sale.columns.idxOf c]?).map Column.name = some c ∧
      emptyLedger.collationAt (Sale.columns.idxOf c) = .binary := by
  decide +kernel

variable {sales : List Sale} {c : String}

theorem index?_ofSales (hc : c ∈ Sale.columns) :
    (ofSales sales).index? c = some (Sale.columns.idxOf c) :=
  (column_facts c hc).1

theorem cell_ofSales (hc : c ∈ Sale.columns) (row : Row) :
    (ofSales sales).cell row c = row.cell (Sale.columns.idxOf c) := by
  unfold Table.cell
  rw [index?_ofSales hc]

theorem isUnkeyed_ofSales (sales : List Sale) : (ofSales sales).IsUnkeyed := ⟨rfl, rfl, rfl⟩

/-- A category and a measure of a ledger. -/
structure AreFound (x : String) (m : Measure) : Prop where
  category : x ∈ Sale.columns
  measure : ∀ y, m = .column y → y ∈ Sale.columns

/-- The same under different names. -/
structure AreApart (x : String) (m : Measure) : Prop extends AreFound x m where
  apart : x ≠ m.name

/-! ## Answers -/

section

variable {s : Select} (hs : Measures p x m s) (ha : AreFound x m)

include hs in
theorem answerColumns_eq (t : Table) : s.answerColumns t = [plainOutput x, measureOutput p m] := by
  rw [Select.answerColumns, hs.outputs, Option.getD_some]

include hs in
theorem isSummary_eq : s.isSummary = isSummed p m := by
  unfold Select.isSummary
  rw [hs.groupBy, hs.outputs]
  cases m with
  | revenue => rfl
  | column y =>
    unfold isSummed measureOutput
    cases aggregateOf p.aggregation with
    | none => rfl
    | some a => rfl

/-- The measure that is summed up goes by its name. -/
theorem measureOutput_of_summed (h : isSummed p m = true) :
    ∃ a term, measureOutput p m = ⟨.aggregate a term, some m.name⟩ := by
  cases m with
  | revenue => exact ⟨_, _, rfl⟩
  | column y =>
    unfold isSummed at h
    unfold measureOutput
    cases haggregate : aggregateOf p.aggregation with
    | none =>
      rw [haggregate] at h
      cases h
    | some a => exact ⟨a, _, rfl⟩

/-- A measure that is not summed up is a column. -/
theorem measureOutput_of_plain (h : isSummed p m = false) :
    ∃ y, m = .column y ∧ measureOutput p m = plainOutput y := by
  cases m with
  | revenue => cases h
  | column y =>
    unfold isSummed at h
    unfold measureOutput
    cases haggregate : aggregateOf p.aggregation with
    | none => exact ⟨y, rfl, rfl⟩
    | some a =>
      rw [haggregate] at h
      cases h

include hs in
theorem orderReferent_of_summed (h : isSummed p m = true) (t : Table) (d : SortOrder) (n : Nat) :
    (s.arranged m.name d n).orderReferent t m.name = .output 1 := by
  obtain ⟨a, term, hout⟩ := measureOutput_of_summed h
  have hnamed : (s.arranged m.name d n).named? m.name = some 1 := by
    unfold Select.named?
    rw [show (s.arranged m.name d n).outputs = s.outputs from rfl, hs.outputs, hout]
    simp [plainOutput, List.findIdx?_cons, Text.equalAscii_refl]
  unfold Select.orderReferent
  rw [hnamed]

include hs in
/-- A column of the table is meant by a name that the answer has not for itself. -/
theorem orderReferent_of_column {c : String} (hc : c ∈ Sale.columns)
    (h : isSummed p m = true → Text.equalAscii m.name c = false) (d : SortOrder) (n : Nat) :
    (s.arranged c d n).orderReferent (ofSales sales) c = .column (Sale.columns.idxOf c) := by
  have hnamed : (s.arranged c d n).named? c = none := by
    unfold Select.named?
    rw [show (s.arranged c d n).outputs = s.outputs from rfl, hs.outputs]
    cases hsummed : isSummed p m with
    | true =>
      obtain ⟨a, term, hout⟩ := measureOutput_of_summed hsummed
      rw [hout]
      simp [plainOutput, List.findIdx?_cons, h hsummed]
    | false =>
      obtain ⟨y, -, hout⟩ := measureOutput_of_plain hsummed
      rw [hout]
      simp [plainOutput, List.findIdx?_cons]
  unfold Select.orderReferent
  rw [hnamed]
  dsimp only
  rw [index?_ofSales hc]

include hs ha in
/-- The order of the measure is not that of the groups. -/
theorem inGroupOrder_arranged (d : SortOrder) (n : Nat) :
    (s.arranged m.name d n).inGroupOrder (ofSales sales) = false := by
  unfold Select.inGroupOrder
  rw [show (s.arranged m.name d n).orderBy = some (m.name, d) from rfl,
    show (s.arranged m.name d n).groupBy = s.groupBy from rfl, hs.groupBy]
  cases h : isSummed p m with
  | false => rfl
  | true =>
    rw [if_pos rfl]
    dsimp only
    rw [orderReferent_of_summed hs h, Select.groupReferent, index?_ofSales ha.category]
    rfl

/-- Where nothing is summed up every row is for itself. -/
theorem exists_row_of_mem_units {t : Table} (h : s.isSummary = false) {rows : List Row}
    (hrows : rows ∈ s.units t) : ∃ row ∈ s.taken t, rows = [row] := by
  unfold Select.units at hrows
  rw [h, if_neg Bool.false_ne_true] at hrows
  obtain ⟨row, hrow, rfl⟩ := List.mem_map.1 hrows
  exact ⟨row, hrow, rfl⟩

include hs ha in
/-- A row that is for itself has its own cells. -/
theorem cellsOf_of_plain {y : String} (h : isSummed p (.column y) = false)
    (hm : m = .column y) (row : Row) : s.cellsOf (ofSales sales) [row] =
      .ok [row.cell (Sale.columns.idxOf x), row.cell (Sale.columns.idxOf y)] := by
  subst hm
  obtain ⟨y', hy, hout⟩ := measureOutput_of_plain h
  obtain rfl := Measure.column.inj hy
  unfold Select.cellsOf
  rw [answerColumns_eq hs, hout, List.mapM_cons, List.mapM_cons, List.mapM_nil]
  simp only [plainOutput, Selection.eval, Term.eval, cell_ofSales ha.category,
    cell_ofSales (ha.measure y rfl)]
  rfl

/-- A row that is for itself and ordered by a column has the cell of that column as its key. -/
theorem answer_of_ordered {d : SortOrder} (horder : s.orderBy = some (c, d)) (hc : c ∈ Sale.columns)
    (hreferent : s.orderReferent (ofSales sales) c = .column (Sale.columns.idxOf c)) (row : Row) :
    s.answer (ofSales sales) [row] = (s.cellsOf (ofSales sales) [row]).map fun cells =>
      ⟨cells, row.cell (Sale.columns.idxOf c)⟩ := by
  have hcollation : s.collation (ofSales sales) (.column (Sale.columns.idxOf c)) = .binary :=
    (column_facts c hc).2.2
  unfold Select.answer
  rw [horder]
  dsimp only
  rw [hreferent]
  dsimp only
  rw [hcollation]
  simp only [Collation.cell_binary]
  rfl

include hs ha in
theorem answer_of_column {c y : String} (hm : m = .column y) (h : isSummed p (.column y) = false)
    (hc : c ∈ Sale.columns) (d : SortOrder) (n : Nat) (row : Row) :
    (s.arranged c d n).answer (ofSales sales) [row] =
      .ok ⟨[row.cell (Sale.columns.idxOf x), row.cell (Sale.columns.idxOf y)],
        row.cell (Sale.columns.idxOf c)⟩ := by
  have hreferent : (s.arranged c d n).orderReferent (ofSales sales) c =
      .column (Sale.columns.idxOf c) :=
    orderReferent_of_column hs hc (fun hsummed => by rw [hm, h] at hsummed; cases hsummed) d n
  have hcells : (s.arranged c d n).cellsOf (ofSales sales) [row] = _ :=
    cellsOf_of_plain hs ha h hm row
  rw [answer_of_ordered rfl hc hreferent, hcells]
  rfl

include hs ha in
/-- **What a row is ordered by is its second cell**: the measure. -/
theorem answer_arranged (d : SortOrder) (n : Nat) :
    ∀ rows ∈ (s.arranged m.name d n).units (ofSales sales),
      (s.arranged m.name d n).answer (ofSales sales) rows =
        (s.cellsOf (ofSales sales) rows).map fun cells => ⟨cells, cells.getD 1 .null⟩ := by
  intro rows hrows
  cases h : isSummed p m with
  | true =>
    have hcollation : (s.arranged m.name d n).collation (ofSales sales) (.output 1) = .binary := by
      obtain ⟨a, term, hout⟩ := measureOutput_of_summed h
      unfold Select.collation
      rw [show (s.arranged m.name d n).answerColumns (ofSales sales) =
        s.answerColumns (ofSales sales) from rfl, answerColumns_eq hs, hout]
      rfl
    unfold Select.answer
    rw [show (s.arranged m.name d n).orderBy = some (m.name, d) from rfl]
    dsimp only
    rw [orderReferent_of_summed hs h]
    dsimp only
    rw [hcollation]
    simp only [Collation.cell_binary]
    rfl
  | false =>
    obtain ⟨row, -, rfl⟩ := exists_row_of_mem_units (s := s.arranged m.name d n)
      ((isSummary_eq hs).trans h) hrows
    obtain ⟨y, rfl, -⟩ := measureOutput_of_plain h
    rw [show (Measure.column y).name = y from rfl,
      answer_of_column hs ha rfl h (ha.measure y rfl), cellsOf_of_plain hs ha h rfl]
    rfl

/-! ## Cells -/

/-- What cells sum up to is a number, or nothing. -/
theorem apply_ok {a : Aggregate} {cells : List Cell} {c : Cell} (h : a.apply cells = .ok c) :
    c.isLegible = true ∧ ∀ s, c ≠ .text s := by
  have hnull : Cell.null.isLegible = true ∧ ∀ s, Cell.null ≠ .text s := ⟨rfl, fun _ h => nomatch h⟩
  have hinteger : ∀ n, (Cell.integer n).isLegible = true ∧ ∀ s, Cell.integer n ≠ .text s :=
    fun _ => ⟨rfl, fun _ h => nomatch h⟩
  have hfloat : ∀ x, (Cell.ofFloat x).isLegible = true ∧ ∀ s, Cell.ofFloat x ≠ .text s := by
    intro x
    unfold Cell.ofFloat
    split
    · exact hnull
    · exact ⟨rfl, fun _ h => nomatch h⟩
  unfold Aggregate.apply at h
  cases a with
  | sum =>
    dsimp only [Aggregate.sumOf] at h
    split at h
    · exact Except.ok.inj h ▸ hnull
    · split at h
      · exact Except.ok.inj h ▸ hinteger _
      · split at h
        · cases h
        · exact Except.ok.inj h ▸ hfloat _
  | average =>
    obtain rfl := Except.ok.inj h
    unfold Aggregate.averageOf
    split
    · exact hnull
    · dsimp only
      split <;> exact hfloat _
  | count => exact Except.ok.inj h ▸ hinteger _
  | countDistinct => exact Except.ok.inj h ▸ hinteger _

/-- The cells of a sale can be read. -/
theorem isLegible_cells (sale : Sale) (i : Nat) : (sale.cells.getD i .null).isLegible = true := by
  have hprice : (Affinity.oneZero (Cell.ofFloat sale.price)).isLegible = true := by
    unfold Cell.ofFloat
    split
    · rfl
    · unfold Affinity.oneZero
      dsimp only
      split <;> rfl
  match i with
  | 0 => rfl
  | 1 => exact hprice
  | 2 => rfl
  | 3 => rfl
  | 4 => rfl
  | _ + 5 => rfl

theorem exists_sale_of_mem_rows {row : Row} (h : row ∈ (ofSales sales).rows) :
    ∃ sale ∈ sales, row.cells = sale.cells := by
  obtain ⟨i, hi, rfl⟩ := List.mem_mapIdx.1 h
  exact ⟨sales[i], List.getElem_mem hi, rfl⟩

/-- The measure of a row: it can be read, and if it goes by the name of the date, it is a date, or
no text. -/
structure IsMeasured (m : Measure) (b : Cell) : Prop where
  isLegible : b.isLegible = true
  date : m.name = dateColumn → (∃ d : Calendar.Date, b = .text d.text) ∨ ∀ s, b ≠ .text s

include hs ha in
/-- **A row has two cells**: that of the category and that of the measure. -/
theorem cells_of_unit {rows : List Row} (hrows : rows ∈ s.units (ofSales sales))
    {cells : List Cell} (hcells : s.cellsOf (ofSales sales) rows = .ok cells) :
    ∃ a b, cells = [a, b] ∧ IsMeasured m b := by
  cases h : isSummed p m with
  | true =>
    obtain ⟨aggregate, term, hout⟩ := measureOutput_of_summed h
    unfold Select.cellsOf at hcells
    rw [answerColumns_eq hs, hout] at hcells
    obtain ⟨a, rest, -, hrest, rfl⟩ := mapM_cons_ok hcells
    obtain ⟨b, none', hb, hnone, rfl⟩ := mapM_cons_ok hrest
    obtain rfl := Except.ok.inj hnone
    obtain ⟨hlegible, htext⟩ := apply_ok hb
    exact ⟨a, b, rfl, hlegible, fun _ => .inr htext⟩
  | false =>
    obtain ⟨row, hrow, rfl⟩ := exists_row_of_mem_units ((isSummary_eq hs).trans h) hrows
    obtain ⟨y, rfl, -⟩ := measureOutput_of_plain h
    obtain ⟨sale, -, hsale⟩ := exists_sale_of_mem_rows (Select.mem_taken.1 hrow).1
    rw [cellsOf_of_plain hs ha h rfl] at hcells
    refine ⟨_, _, (Except.ok.inj hcells).symm, ?_, fun hdate => .inl ⟨sale.date, ?_⟩⟩
    · rw [Row.cell, hsale]
      exact isLegible_cells sale _
    · rw [show y = dateColumn from hdate, Row.cell, hsale]
      rfl

include hs ha in
/-- The same for the rows of the whole answer. -/
theorem cells_of_rows {cells : List (List Cell)} (hrows : s.rows (ofSales sales) = .ok cells) :
    ∀ c ∈ cells, ∃ a b, c = [a, b] ∧ IsMeasured m b := by
  intro c hc
  rw [Select.rows_of_bare hs.orderBy hs.limit] at hrows
  obtain ⟨unit, hunit, hcells⟩ := exists_of_mapM hrows c hc
  exact cells_of_unit hs ha hunit hcells

end

/-- A column of a ledger goes by its name. -/
theorem outputName_plain (hc : c ∈ Sale.columns) :
    Select.outputName (ofSales sales) (plainOutput c) = c := by
  unfold Select.outputName plainOutput
  dsimp only
  rw [index?_ofSales hc]
  dsimp only
  rw [show ((ofSales sales).columns[Sale.columns.idxOf c]?).map Column.name = some c from
    (column_facts c hc).2.1, Option.getD_some]

/-- The columns of the answer go by the names of the category and of the measure. -/
theorem outputNames_of_outputs {s : Select}
    (houtputs : s.outputs = some [plainOutput x, measureOutput p m]) (ha : AreFound x m) :
    (s.answerColumns (ofSales sales)).map (Select.outputName (ofSales sales)) = [x, m.name] := by
  rw [Select.answerColumns, houtputs, Option.getD_some, List.map_cons, List.map_cons,
    List.map_nil, outputName_plain ha.category]
  cases h : isSummed p m with
  | true =>
    obtain ⟨a, term, hout⟩ := measureOutput_of_summed h
    rw [hout]
    rfl
  | false =>
    obtain ⟨y, rfl, hout⟩ := measureOutput_of_plain h
    rw [hout, outputName_plain (ha.measure y rfl)]
    rfl

theorem outputNames_eq {s : Select} (hs : Measures p x m s) (ha : AreApart x m) :
    (s.answerColumns (ofSales sales)).map (Select.outputName (ofSales sales)) = [x, m.name] :=
  outputNames_of_outputs hs.outputs ha.toAreFound

end SalesLedger.Query
