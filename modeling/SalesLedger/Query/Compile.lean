import SalesLedger.Calendar.Period
import SalesLedger.Failure
import SalesLedger.Ledger
import SalesLedger.Schema
import SalesLedger.Sql.Select
import SalesLedger.Text.Escaped

/-!
# Queries from parameter sets

What a caller asks for becomes one query of a ledger. Every name is looked up in the ledger's
columns and is left out where it is not found; every value is bound to the query and never becomes
part of its text. The measure decides what is selected:

* the revenue, which is also what the sum of prices means: summed for each category, or in all;
* a column with a way to sum up and a category: summed up for each category;
* a column with a category: the two columns;
* otherwise everything, which a strict caller is refused.

A strict caller's rows are always ordered and capped.

Main statements: `compile_lenient`, a lenient caller is never refused, and `compile_ok`, what is
compiled is `compiled`.
-/

namespace SalesLedger.Query

open Sql

/-- The name that the revenue goes by. -/
def totalSales : String := "total_sales"

/-- The cap for strict callers who name none. -/
def defaultLimit : Nat := 10

/-- The columns that have a part of their own. -/
def priceColumn : String := "price"
def soldColumn : String := "quantity_sold"
def dateColumn : String := "sale_date"

/-- What the rows measure. -/
inductive Measure where
  | column (name : String)
  | revenue
  deriving Repr, DecidableEq

/-- The name that the measure has in the rows. -/
def Measure.name : Measure → String
  | .column c => c
  | .revenue => totalSales

/-- How much of what is asked for has to be found. -/
inductive Shape where
  /-- What is not found is left out. -/
  | lenient
  /-- Both axes have to be found. -/
  | strict
  deriving Repr, DecidableEq

/-- A query that was compiled. -/
structure Compiled where
  select : Select
  /-- The column of the categories. -/
  xAxis : Option String
  /-- The name of the measure. -/
  measure : Option String
  deriving DecidableEq

/-- The text of the query. -/
def Compiled.sql (q : Compiled) : String := q.select.sql

def Compiled.bound (q : Compiled) : List Cell := q.select.bound

/-- Why a strict caller is refused: an axis was not found. -/
structure Rejection where
  xAxis : Option String
  yAxis : Option String
  deriving Repr, DecidableEq

/-- The failure of a refused caller. -/
def Rejection.toFailure (r : Rejection) : Failure :=
  ⟨.rejected, "chart data needs a resolvable x_axis and y_axis (got x_axis=" ++
    Text.Escaped.optional r.xAxis ++ ", y_axis=" ++ Text.Escaped.optional r.yAxis ++ ")"⟩

def meansRevenue (name : String) : Bool :=
  Text.equalAscii name totalSales

/-- The aggregate of a way to sum up. -/
def aggregateOf : Aggregation → Option Aggregate
  | .sum => some .sum
  | .count => some .count
  | .average => some .average
  | .none => none

variable (p : ParameterSet) (schema : Schema)

/-- The column that a name means. The revenue is no column. -/
def column? (name : Option String) : Option String :=
  name.bind fun n => if meansRevenue n then none else schema.resolve? n

def category? : Option String :=
  p.xAxis.bind schema.resolve?

def measure? : Option Measure :=
  p.yAxis.bind fun y =>
    if meansRevenue y then some .revenue
    else
      (column? schema p.yAxis).map fun c =>
        if Text.equalAscii c priceColumn && p.aggregation = .sum then .revenue else .column c

/-- The revenue as a column of the answer. -/
def revenueOutput : Output :=
  ⟨.aggregate .sum (.product (.column priceColumn) (.column soldColumn)), some totalSales⟩

def plainOutput (c : String) : Output := ⟨.plain (.column c), none⟩

def outputs? : Option Measure → Option String → Option (List Output)
  | some .revenue, x => some ((x.map plainOutput).toList ++ [revenueOutput])
  | some (.column y), some x =>
    match aggregateOf p.aggregation with
    | some a => some [plainOutput x, ⟨.aggregate a (.column y), some y⟩]
    | none => some [plainOutput x, plainOutput y]
  | _, _ => none

def groupBy? : Option Measure → Option String → Option String
  | some .revenue, x => x
  | some (.column _), some x => (aggregateOf p.aggregation).map fun _ => x
  | _, _ => none

/-- The name of the measure, where the rows have it. -/
def measureName? : Option Measure → Option String → Option String
  | some .revenue, _ => some totalSales
  | some (.column y), some _ => some y
  | _, _ => none

/-- The condition of a window on the date of a sale. -/
def windowCondition : Calendar.Window → Condition
  | .between start stop => .between dateColumn (.text start.text) (.text stop.text)
  | .year y => .yearIs dateColumn (.text (toString y))

def cellOf : FilterValue → Cell
  | .text s => .text s
  | .integer n => .integer n
  | .real x => .real x
  | .bool b => .integer (if b then 1 else 0)

/-- The condition of the filter, where it has a column and a value. -/
def filterCondition? : Option Condition :=
  match p.filterColumn.bind schema.resolve?, p.filterValue with
  | some c, some v => some (.equals c (cellOf v))
  | _, _ => none

def conditions (today : Calendar.Date) : List Condition :=
  ((p.timePeriod.bind fun token => Calendar.resolveWindow? token today).map windowCondition).toList
    ++ (filterCondition? p schema).toList

/-- What rows are ordered by. The measure is ordered by under the name that it has in the rows; the
revenue can be ordered by only where it is measured. -/
def orderName? (measure : Option Measure) (name? : Option String) : Option String :=
  p.sortBy.bind fun requested =>
    if meansRevenue requested then
      if measure = some .revenue then some totalSales else none
    else
      (schema.resolve? requested).map fun c =>
        match p.yAxis, name? with
        | some y, some name => if Text.equalAscii y c then name else c
        | _, _ => c

/-- What rows are ordered by for a shape of caller: a strict caller's always by something. -/
def orderTarget? (shape : Shape) : Option String :=
  let measure := measure? p schema
  let name := measureName? measure (category? p schema)
  match shape with
  | .strict => (orderName? p schema measure name).or name
  | .lenient => orderName? p schema measure name

/-- The cap for a shape of caller. -/
def rowLimit? : Shape → Option Nat
  | .strict => some (p.limit.getD defaultLimit)
  | .lenient => p.limit

/-- Whether a shape of caller is refused. -/
def isRefused (shape : Shape) : Bool :=
  shape = .strict ∧
    (category? p schema = none ∨ measureName? (measure? p schema) (category? p schema) = none)

/-- The query for a shape of caller that is not refused. -/
def compiled (today : Calendar.Date) (shape : Shape) : Compiled :=
  let x := category? p schema
  let measure := measure? p schema
  { select :=
      { outputs := outputs? p measure x
        table := Ledger.table
        conditions := conditions p schema today
        groupBy := groupBy? p measure x
        orderBy := (orderTarget? p schema shape).map fun n => (n, p.sortOrder)
        limit := rowLimit? p shape }
    xAxis := x
    measure := measureName? measure x }

/-- The query that a parameter set asks for on a day. -/
def compile (today : Calendar.Date) (shape : Shape) : Except Rejection Compiled :=
  if isRefused p schema shape then .error ⟨p.xAxis, p.yAxis⟩
  else .ok (compiled p schema today shape)

/-! ## Laws -/

theorem compile_lenient (today : Calendar.Date) :
    compile p schema today .lenient = .ok (compiled p schema today .lenient) := by
  simp [compile, isRefused]

theorem compile_ok {p : ParameterSet} {schema : Schema} {today : Calendar.Date} {shape : Shape}
    {q : Compiled} (h : compile p schema today shape = .ok q) :
    isRefused p schema shape = false ∧ compiled p schema today shape = q := by
  unfold compile at h
  split at h
  · cases h
  · rename_i hr
    exact ⟨by simpa using hr, Except.ok.inj h⟩

end SalesLedger.Query
