import SalesLedger.Proofs.Meeting

/-!
# Measures of groups of sales

What a query of a measure by a category answers, told from the sales that it takes. Each row is for
a group of them, `groupsFor`: the sales of one category, or single sales where nothing is summed up.
It has two cells: the category of the group, and what the group measures, `measureOf`.

* `units_ofSales`: the rows that are summed up together are those of the groups.
* `cellsOf_group`: the two cells of a group.
* `run_eq`: the record of a row has the two cells under the names of category and measure.
-/

namespace SalesLedger.Query

open Sql Ledger

variable {p : ParameterSet} {schema : Schema} {x c : String} {m : Measure} {s : Select}
  {sales : List Sale}

/-! ## Queries -/

/-- A query of a measure by a category, in any order and with any cap. -/
structure Asks (p : ParameterSet) (x : String) (m : Measure) (s : Select) : Prop where
  outputs : s.outputs = some [plainOutput x, measureOutput p m]
  table : s.table = Ledger.table
  groupBy : s.groupBy = if isSummed p m then some x else none

theorem Asks.bare (hs : Asks p x m s) : Measures p x m { s with orderBy := none, limit := none } :=
  ⟨hs.outputs, hs.table, hs.groupBy, rfl, rfl⟩

theorem Asks.isSummary (hs : Asks p x m s) : s.isSummary = isSummed p m := by
  have hbare := isSummary_eq hs.bare
  exact hbare

theorem asks_compiled (hx : category? p schema = some x) (hm : measure? p schema = some m)
    (today : Calendar.Date) (shape : Shape) :
    Asks p x m (compiled p schema today shape).select := by
  unfold compiled
  dsimp only
  rw [hx, hm]
  exact ⟨outputs?_eq p x m, rfl, groupBy?_eq p x m⟩

/-- A caller for whom both axes are found is not refused. -/
theorem compile_of_found (hx : category? p schema = some x) (hm : measure? p schema = some m)
    (today : Calendar.Date) (shape : Shape) :
    compile p schema today shape = .ok (compiled p schema today shape) := by
  cases shape with
  | lenient => exact compile_lenient p schema today
  | strict =>
    unfold compile
    rw [isRefused_of_found hx hm, if_neg Bool.false_ne_true]

/-- What a strict caller is not refused has a category and a measure. -/
theorem found_of_strict (h : isRefused p schema .strict = false) :
    ∃ x m, category? p schema = some x ∧ measure? p schema = some m := by
  cases hx : category? p schema with
  | none => simp [isRefused, hx] at h
  | some x =>
    cases hm : measure? p schema with
    | none => simp [isRefused, measureName?, hm] at h
    | some m => exact ⟨x, m, rfl, rfl⟩

theorem passing_compiled (p : ParameterSet) (schema : Schema) (today : Calendar.Date)
    (shape : Shape) (sales : List Sale) : passing (compiled p schema today shape).select sales =
      sales.filter fun sale => (conditions p schema today).all sale.meets := rfl

/-! ## Groups -/

/-- The groups of sales that the rows of an answer are for. -/
def groupsFor (p : ParameterSet) (x : String) (m : Measure) (sales : List Sale) :
    List (List Sale) :=
  if isSummed p m then groupsOf (Sale.cell · x) sales else sales.map fun sale => [sale]

/-- The same in the order in which a query works them out. -/
def arrangedGroups (p : ParameterSet) (x : String) (m : Measure) (s : Select) (sales : List Sale) :
    List (List Sale) :=
  if isSummed p m then groupsOf (Sale.cell · x) (aligned s x sales)
  else (passing s sales).map fun sale => [sale]

theorem arrangedGroups_perm (s : Select) (sales : List Sale) :
    (arrangedGroups p x m s sales).Perm (groupsFor p x m (passing s sales)) := by
  unfold arrangedGroups groupsFor
  split
  · exact aligned_groups_perm s x sales
  · exact .refl _

/-- A query that takes all sales cuts them into groups in its direction. -/
theorem arrangedGroups_of_all (hsummed : isSummed p m = true) (hall : s.conditions = [])
    (sales : List Sale) : arrangedGroups p x m s sales =
      groupsOf (Sale.cell · x) (order s.direction (Sale.cell · x) sales) := by
  have hfixed : s.isFixed emptyLedger (Sale.columns.idxOf x) = false := by
    rw [Select.isFixed, hall]
    rfl
  have hpassing : passing s sales = sales := by
    rw [passing, hall]
    exact List.filter_true sales
  rw [arrangedGroups, if_pos hsummed, aligned, hfixed, if_neg Bool.false_ne_true, hpassing]

/-- **The rows of each unit of an answer** are those of a group of sales. -/
theorem units_ofSales (hs : Asks p x m s) (hx : x ∈ Sale.columns) (sales : List Sale) :
    (s.units (ofSales sales)).map (List.map Row.cells) =
      (arrangedGroups p x m s sales).map (List.map Sale.cells) := by
  unfold arrangedGroups
  cases h : isSummed p m with
  | true =>
    have hgroup : s.groupBy = some x := by rw [hs.groupBy, h, if_pos rfl]
    unfold Select.units
    rw [hs.isSummary, h, if_pos rfl, if_pos rfl]
    exact groups_ofSales hx hgroup sales
  | false =>
    rw [units_of_plain (hs.isSummary.trans h), if_neg Bool.false_ne_true, List.map_map]
    rfl

/-! ## What a group measures -/

/-- The cell under a column of the first sale of a group. -/
def groupCell (c : String) (group : List Sale) : Cell :=
  ((group.head?).map (Sale.cell · c)).getD .null

/-- What a group of sales measures: their revenue, or what a column of theirs sums up to. -/
def measureOf (p : ParameterSet) (m : Measure) (group : List Sale) : Except Fault Cell :=
  match m with
  | .revenue =>
    Aggregate.sum.apply (group.map fun s => multiply (s.cell priceColumn) (s.cell soldColumn))
  | .column y =>
    match aggregateOf p.aggregation with
    | some a => a.apply (group.map (Sale.cell · y))
    | none => .ok (groupCell y group)

/-! ## Cells -/

/-- The value of a term for a sale. -/
def valueOf (term : Term) (s : Sale) : Cell := term.eval emptyLedger ⟨0, s.cells⟩

theorem valueOf_column (hc : c ∈ Sale.columns) (s : Sale) : valueOf (.column c) s = s.cell c := by
  have hcell : (ofSales []).cell ⟨0, s.cells⟩ c = s.cell c := cell_ofSales hc ⟨0, s.cells⟩
  exact hcell

theorem valueOf_product (a b : Term) (s : Sale) :
    valueOf (.product a b) s = multiply (valueOf a s) (valueOf b s) := rfl

/-- Only the cells of a row tell the value of a term. -/
theorem eval_ofSales (term : Term) (row : Row) :
    term.eval (ofSales sales) row = term.eval emptyLedger ⟨0, row.cells⟩ := by
  induction term with
  | column c => rfl
  | product a b iha ihb => exact congrArg₂ multiply iha ihb
  | monthOf c => rfl
  | whenAtMost c bound result ih =>
    unfold Term.eval
    rw [ih]
    rfl

section Cells

variable {rows : List Row} {group : List Sale} (h : rows.map Row.cells = group.map Sale.cells)

include h

/-- What is not summed up is the value for the first sale. -/
theorem eval_plain_group (term : Term) : (Selection.plain term).eval (ofSales sales) rows =
    .ok (((group.head?).map (valueOf term)).getD .null) := by
  cases rows with
  | nil =>
    obtain rfl := List.map_eq_nil_iff.1 h.symm
    rfl
  | cons row rest =>
    cases group with
    | nil => cases h
    | cons s group =>
      refine congrArg Except.ok ((eval_ofSales term row).trans ?_)
      rw [(List.cons.inj h).1]
      rfl

theorem eval_plainOutput_group (hc : c ∈ Sale.columns) :
    (plainOutput c).selection.eval (ofSales sales) rows = .ok (groupCell c group) := by
  refine (eval_plain_group h (.column c)).trans ?_
  unfold groupCell
  rw [funext (valueOf_column hc)]

/-- **The values of a term for some rows** are those for the sales of the rows. -/
theorem map_eval_group (term : Term) :
    rows.map (term.eval (ofSales sales)) = group.map (valueOf term) := by
  have hvalues := congrArg (List.map fun cells => term.eval emptyLedger ⟨0, cells⟩) h
  rw [List.map_map, List.map_map] at hvalues
  exact (List.map_congr_left fun row _ => eval_ofSales term row).trans hvalues

theorem map_cell_group (hc : c ∈ Sale.columns) :
    rows.map ((Term.column c).eval (ofSales sales)) = group.map (Sale.cell · c) :=
  (map_eval_group h _).trans (List.map_congr_left fun s _ => valueOf_column hc s)

theorem map_product_group {c' : String} (hc : c ∈ Sale.columns) (hc' : c' ∈ Sale.columns) :
    rows.map ((Term.product (.column c) (.column c')).eval (ofSales sales)) =
      group.map fun s => multiply (s.cell c) (s.cell c') := by
  refine (map_eval_group h _).trans (List.map_congr_left fun s _ => ?_)
  rw [valueOf_product, valueOf_column hc, valueOf_column hc']

/-- **The measure of a row** is that of its group. -/
theorem eval_measureOutput_group (hm : ∀ y, m = .column y → y ∈ Sale.columns) :
    (measureOutput p m).selection.eval (ofSales sales) rows = measureOf p m group := by
  cases m with
  | revenue => exact congrArg Aggregate.sum.apply (map_product_group h (by decide) (by decide))
  | column y =>
    have hcells : rows.map ((Term.column y).eval (ofSales sales)) = group.map (Sale.cell · y) :=
      map_cell_group h (hm y rfl)
    unfold measureOutput measureOf
    cases p.aggregation with
    | none => exact eval_plainOutput_group h (hm y rfl)
    | sum => exact congrArg Aggregate.sum.apply hcells
    | count => exact congrArg Aggregate.count.apply hcells
    | average => exact congrArg Aggregate.average.apply hcells

/-- **The two cells of a group.** -/
theorem cellsOf_group (hs : Asks p x m s) (ha : AreFound x m) :
    s.cellsOf (ofSales sales) rows =
      (measureOf p m group).map fun b => [groupCell x group, b] := by
  have hmeasure : (measureOutput p m).selection.eval (ofSales sales) rows = measureOf p m group :=
    eval_measureOutput_group h ha.measure
  unfold Select.cellsOf Select.answerColumns
  rw [hs.outputs, Option.getD_some, List.mapM_cons, List.mapM_cons, List.mapM_nil,
    eval_plainOutput_group h ha.category, hmeasure]
  cases measureOf p m group <;> rfl

end Cells

/-! ## Answers -/

/-- A group of sales with what it measures. -/
abbrev Measured := List Sale × Cell

def measured (p : ParameterSet) (m : Measure) (group : List Sale) : Except Fault Measured :=
  (measureOf p m group).map fun b => (group, b)

/-- The cells of a measured group. -/
def Measured.cells (x : String) (a : Measured) : List Cell := [groupCell x a.1, a.2]

/-- The record of a measured group. Where both names are one the measure counts. -/
def Measured.record (x measure : String) (a : Measured) : Json.Fields :=
  Json.Fields.ofList [(x, (groupCell x a.1).toJson), (measure, a.2.toJson)]

theorem measureOf_of_mapM {groups : List (List Sale)} {answers : List Measured}
    (h : groups.mapM (measured p m) = .ok answers) :
    answers.map Prod.fst = groups ∧ ∀ a ∈ answers, measureOf p m a.1 = .ok a.2 := by
  have hmeasured : ∀ group a, measured p m group = .ok a →
      a.1 = group ∧ measureOf p m group = .ok a.2 := by
    intro group a ha
    unfold measured at ha
    cases hb : measureOf p m group with
    | error f => simp [hb, Except.map] at ha
    | ok b =>
      simp only [hb, Except.map, Except.ok.injEq] at ha
      subst ha
      exact ⟨rfl, rfl⟩
  constructor
  · rw [map_of_mapM h fun group _ a ha => (hmeasured group a ha).1, List.map_id']
  · intro a ha
    obtain ⟨group, -, hgroup⟩ := exists_of_mapM h a ha
    obtain ⟨rfl, hb⟩ := hmeasured group a hgroup
    exact hb

/-- **What a query works out**: a measure for every group. -/
theorem mapM_cellsOf (hs : Asks p x m s) (ha : AreFound x m) (sales : List Sale) :
    (s.units (ofSales sales)).mapM (s.cellsOf (ofSales sales)) =
      ((arrangedGroups p x m s sales).mapM (measured p m)).map
        (List.map (Measured.cells x)) := by
  rw [← mapM_map_ok]
  refine mapM_of_map (units_ofSales hs ha.category sales) fun rows group h => ?_
  rw [cellsOf_group h hs ha]
  unfold measured
  cases measureOf p m group <;> rfl

/-- The rows of the engine's answer as records. -/
theorem run_eq (hs : Asks p x m s) (ha : AreFound x m) (sales : List Sale) :
    s.run (ofSales sales) = (s.rows (ofSales sales)).map
      (List.map fun cells => Json.Fields.ofList ([x, m.name].zip (cells.map Cell.toJson))) := by
  unfold Select.run
  rw [outputNames_of_outputs hs.outputs ha]
  cases s.rows (ofSales sales) <;> rfl

end SalesLedger.Query
