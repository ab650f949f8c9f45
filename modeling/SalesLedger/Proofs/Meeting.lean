import SalesLedger.Proofs.Measuring

/-!
# Sales that meet conditions

Which sales of a ledger a query takes, and in what groups, told from the sales alone.

* `compares_sale`: a comparison leaves the cell of a sale as it is and turns only the value.
* `taken_ofSales`: a query takes the rows of the sales that meet its conditions.
* `groups_ofSales`: it sums up the sales of each key, and the keys come in its direction.
* `aligned_groups_perm`: the groups are the same whatever the query is ordered by.
-/

namespace SalesLedger

open Sql Ledger

/-! ## Cells and conditions -/

/-- The cell that a sale has under a column. -/
def Sale.cell (s : Sale) (c : String) : Cell := s.cells.getD (Sale.columns.idxOf c) .null

/-- Whether a row of cells in a ledger meets a condition. -/
def Ledger.meets (cells : List Cell) (c : Condition) : Bool := c.holds emptyLedger ⟨0, cells⟩

def Sale.meets (s : Sale) (c : Condition) : Bool := Ledger.meets s.cells c

/-- What the other side of a comparison with a column of an affinity becomes. -/
def Sql.Affinity.turned : Affinity → Cell → Cell
  | .blob, v => v
  | .text, v => textOf v
  | _, v => numberOf v

namespace Query

variable {sales : List Sale} {c : String}

theorem holds_ofSales (row : Row) (condition : Condition) :
    condition.holds (ofSales sales) row = Ledger.meets row.cells condition := by
  cases condition <;> rfl

/-- The cell of a sale stays as it is in a comparison with its column. -/
theorem sides_sale (hc : c ∈ Sale.columns) (sale : Sale) (v : Cell) :
    (emptyLedger.affinityAt (Sale.columns.idxOf c)).sides (sale.cell c) v =
      (sale.cell c, (emptyLedger.affinityAt (Sale.columns.idxOf c)).turned v) := by
  have hprice : Affinity.numberOf (Affinity.oneZero (Cell.ofFloat sale.price)) =
      Affinity.oneZero (Cell.ofFloat sale.price) := by
    unfold Cell.ofFloat
    split
    · rfl
    · unfold Affinity.oneZero
      dsimp only
      split <;> rfl
  simp only [Sale.columns, List.mem_cons, List.not_mem_nil, or_false] at hc
  rcases hc with rfl | rfl | rfl | rfl | rfl
  · rfl
  · exact congrArg (·, Affinity.numberOf v) hprice
  · rfl
  · rfl
  · rfl

/-- **A comparison with a sale** leaves its cell as it is and turns the value. -/
theorem compares_sale (hc : c ∈ Sale.columns) (sale : Sale) (op : Comparison) (v : Cell) :
    emptyLedger.compares ⟨0, sale.cells⟩ op c v = true ↔
      sale.cell c ≠ .null ∧ v ≠ .null ∧
        op.holds (sale.cell c)
          ((emptyLedger.affinityAt (Sale.columns.idxOf c)).turned v) = true := by
  have hindex : emptyLedger.index? c = some (Sale.columns.idxOf c) := (column_facts c hc).1
  have hcell : emptyLedger.cell ⟨0, sale.cells⟩ c = sale.cell c := by
    unfold Table.cell
    rw [hindex]
    rfl
  have haffinity : emptyLedger.affinity c = emptyLedger.affinityAt (Sale.columns.idxOf c) := by
    unfold Table.affinity
    rw [hindex]
  have hcollation : emptyLedger.collation c = .binary := by
    unfold Table.collation
    rw [hindex]
    exact (column_facts c hc).2.2
  unfold Table.compares Sql.compare
  rw [hcell, haffinity, hcollation, sides_sale hc]
  by_cases hnull : sale.cell c = .null ∨ v = .null
  · rw [if_pos hnull]
    simp only [decide_eq_true_eq, reduceCtorEq, false_iff, not_and]
    intro hcell' hv
    exact absurd hnull (not_or.2 ⟨hcell', hv⟩)
  · rw [if_neg hnull]
    simp only [Collation.cell_binary, decide_eq_true_eq, Option.some.injEq]
    rw [not_or] at hnull
    exact ⟨fun h => ⟨hnull.1, hnull.2, h⟩, fun h => h.2.2⟩

theorem compares_of_index? {t : Table} {c' : String} {i : Nat} (h : t.index? c = some i)
    (h' : t.index? c' = some i) (row : Row) (op : Comparison) (v : Cell) :
    t.compares row op c v = t.compares row op c' v := by
  unfold Table.compares Table.cell Table.affinity Table.collation
  rw [h, h']

theorem key_of_equals {x : String} (hx : x ∈ Sale.columns)
    (hc : emptyLedger.index? c = some (Sale.columns.idxOf x)) {s s' : Sale} {v : Cell}
    (h : s.meets (.equals c v) = true) (h' : s'.meets (.equals c v) = true) :
    (s.cell x).key = (s'.cell x).key := by
  have hcompares : ∀ s : Sale, s.meets (.equals c v) =
      emptyLedger.compares ⟨0, s.cells⟩ .equal x v := fun s =>
    compares_of_index? hc (column_facts x hx).1 ⟨0, s.cells⟩ .equal v
  rw [hcompares] at h h'
  obtain ⟨-, -, hsame⟩ := (compares_sale hx s .equal v).1 h
  obtain ⟨-, -, hsame'⟩ := (compares_sale hx s' .equal v).1 h'
  exact (Cell.same_iff.1 hsame).trans (Cell.same_iff.1 hsame').symm

/-! ## Sales that are taken -/

/-- The sales that a query takes. -/
def passing (s : Select) (sales : List Sale) : List Sale :=
  sales.filter fun sale => s.conditions.all sale.meets

/-- **A query takes the rows of the sales that meet its conditions**, in their order. -/
theorem taken_ofSales (s : Select) (sales : List Sale) :
    (s.taken (ofSales sales)).map Row.cells = (passing s sales).map Sale.cells := by
  have hholds : (fun row => s.conditions.all (Condition.holds (ofSales sales) row)) =
      (fun cells => s.conditions.all (Ledger.meets cells)) ∘ Row.cells := by
    funext row
    exact congrArg s.conditions.all (funext fun condition => holds_ofSales row condition)
  rw [Select.taken_of_unkeyed (isUnkeyed_ofSales sales), hholds, ← List.filter_map, cells_ofSales,
    List.filter_map]
  rfl

/-- Where nothing is summed up, each of these sales is for itself. -/
theorem units_of_plain {s : Select} (h : s.isSummary = false) (sales : List Sale) :
    (s.units (ofSales sales)).map (List.map Row.cells) =
      (passing s sales).map fun sale => [sale.cells] := by
  have hsingle := congrArg (List.map fun cells : List Cell => [cells]) (taken_ofSales s sales)
  rw [List.map_map, List.map_map] at hsingle
  unfold Select.units
  rw [h, if_neg Bool.false_ne_true, List.map_map]
  exact hsingle

/-! ## Groups of sales -/

/-- The sales that a query takes, in the order in which it cuts them into groups of a column. Where
they equal one value there, they are one group already. -/
def aligned (s : Select) (x : String) (sales : List Sale) : List Sale :=
  if s.isFixed emptyLedger (Sale.columns.idxOf x) then passing s sales
  else order s.direction (Sale.cell · x) (passing s sales)

section Groups

variable {s : Select} {x : String}

/-- The sales of a key are together, and the keys come in the direction of the query. -/
theorem aligned_pairwise (hx : x ∈ Sale.columns) (s : Select) (sales : List Sale) :
    (aligned s x sales).Pairwise fun a b => (a.cell x).leads s.direction (b.cell x) = true := by
  unfold aligned
  split
  · rename_i hfixed
    obtain ⟨c, hc, hequality⟩ := List.any_eq_true.1 hfixed
    cases c with
    | equals c v =>
      have hindex : emptyLedger.index? c = some (Sale.columns.idxOf x) := by
        exact of_decide_eq_true hequality
      have hmeets : ∀ sale ∈ passing s sales, sale.meets (.equals c v) = true := by
        intro sale hsale
        exact List.all_eq_true.1 (List.mem_filter.1 hsale).2 _ hc
      refine List.pairwise_of_forall_mem_list fun a ha b hb => ?_
      exact Cell.leads_of_key (key_of_equals hx hindex (hmeets a ha) (hmeets b hb)) _
    | _ => cases hequality
  · exact order_pairwise _ _ _

/-- **The groups of a query** are the sales of each key, in the direction of the query. -/
theorem groups_ofSales (hx : x ∈ Sale.columns) (hgroup : s.groupBy = some x) (sales : List Sale) :
    (s.groups (ofSales sales)).map (List.map Row.cells) =
      (groupsOf (Sale.cell · x) (aligned s x sales)).map (List.map Sale.cells) := by
  let key : List Cell → Cell := fun cells => cells.getD (Sale.columns.idxOf x) .null
  have hreferent : s.groupReferent (ofSales sales) x = .column (Sale.columns.idxOf x) := by
    unfold Select.groupReferent
    rw [index?_ofSales hx]
  have hkey : s.groupKey (ofSales sales) (.column (Sale.columns.idxOf x)) =
      fun row => key row.cells := by
    have hcollation : s.collation (ofSales sales) (.column (Sale.columns.idxOf x)) = .binary :=
      (column_facts x hx).2.2
    funext row
    unfold Select.groupKey
    rw [hcollation, Collation.cell_binary]
    rfl
  have hordered : (s.route? (ofSales sales)).any (s.isOrdered (ofSales sales)) =
      s.isFixed emptyLedger (Sale.columns.idxOf x) := by
    rw [Select.isOrdered_of_unkeyed (isUnkeyed_ofSales sales) (by rw [hgroup]; rfl),
      Select.wish?_of_groups hgroup hreferent]
    rfl
  have hrows : (if s.isFixed emptyLedger (Sale.columns.idxOf x) then s.taken (ofSales sales)
      else order s.direction (fun row => key row.cells) (s.taken (ofSales sales))).map Row.cells =
      (aligned s x sales).map Sale.cells := by
    unfold aligned
    split
    · exact taken_ofSales s sales
    · rw [← order_map, taken_ofSales, order_map]
      rfl
  unfold Select.groups
  rw [hgroup]
  dsimp only
  rw [hreferent, hkey, hordered, ← runs_map key, hrows, runs_map key,
    ← runs_of_ordered _ (aligned_pairwise hx s sales)]
  rfl

/-- The rows that an answer's row is for are those of some sales, of one at least. -/
theorem exists_sales_of_mem_units (hx : x ∈ Sale.columns)
    (hgroup : s.isSummary = true → s.groupBy = some x) {rows : List Row}
    (hrows : rows ∈ s.units (ofSales sales)) :
    ∃ group : List Sale, group ≠ [] ∧ rows.map Row.cells = group.map Sale.cells := by
  cases hsummary : s.isSummary with
  | true =>
    unfold Select.units at hrows
    rw [hsummary, if_pos rfl] at hrows
    have hmem := List.mem_map_of_mem (f := List.map Row.cells) hrows
    rw [groups_ofSales hx (hgroup hsummary)] at hmem
    obtain ⟨group, hmem, heq⟩ := List.mem_map.1 hmem
    exact ⟨group, ne_nil_of_mem_groupsOf _ hmem, heq.symm⟩
  | false =>
    obtain ⟨row, hrow, rfl⟩ := exists_row_of_mem_units hsummary hrows
    obtain ⟨sale, -, hsale⟩ := exists_sale_of_mem_rows (Select.mem_taken.1 hrow).1
    exact ⟨[sale], List.cons_ne_nil _ _, congrArg (· :: []) hsale⟩

/-- The category of some sales that are summed up: the cell of the first. -/
def categoryOf (x : String) (group : List (List Cell)) : Cell :=
  ((group.head?).map fun cells => cells.getD (Sale.columns.idxOf x) .null).getD .null

/-- What is not summed up is the category. -/
theorem eval_plainOutput (hx : x ∈ Sale.columns) (rows : List Row) :
    (plainOutput x).selection.eval (ofSales sales) rows =
      .ok (categoryOf x (rows.map Row.cells)) := by
  cases rows with
  | nil => rfl
  | cons row rest => exact congrArg Except.ok (cell_ofSales hx row)

/-- **The groups are the same whatever a query is ordered by.** -/
theorem aligned_groups_perm (s : Select) (x : String) (sales : List Sale) :
    (groupsOf (Sale.cell · x) (aligned s x sales)).Perm
      (groupsOf (Sale.cell · x) (passing s sales)) := by
  unfold aligned
  split
  · exact .refl _
  · exact groupsOf_order_perm _ _ _

end Groups

end Query

end SalesLedger
