import SalesLedger.Sql.Moment.Writer
import SalesLedger.Sql.Scalar
import SalesLedger.Sql.Select
import SalesLedger.Sql.Table

/-!
# Values of rows

What the terms and conditions of a query mean for a row of a table. A name means the table's column
with that name in any case; where there is none it is a text that spells the name. A comparison is
turned and folded as its column says, and holds of nothing that has no value.

Main statement: `compares_null`, no comparison with nothing holds.
-/

namespace SalesLedger.Sql

/-- The cell of a row under a name. -/
def Table.cell (t : Table) (row : Row) (name : String) : Cell :=
  match t.index? name with
  | some i => row.cell i
  | none => .text name

/-- What the other side of a comparison with a name is turned into. -/
def Table.affinity (t : Table) (name : String) : Affinity :=
  match t.index? name with
  | some i => t.affinityAt i
  | none => .blob

/-- How the texts under a name compare. -/
def Table.collation (t : Table) (name : String) : Collation :=
  match t.index? name with
  | some i => t.collationAt i
  | none => .binary

/-- Whether the cell of a row under a name compares as wanted with a value. -/
def Table.compares (t : Table) (row : Row) (op : Comparison) (name : String) (value : Cell) :
    Bool :=
  compare (t.affinity name) (t.collation name) op (t.cell row name) value = some true

/-- The value of a term for a row. -/
def Term.eval (t : Table) (row : Row) : Term → Cell
  | .column c => t.cell row c
  | .product a b => multiply (a.eval t row) (b.eval t row)
  | .monthOf c =>
    match Moment.dayOfCell? (t.cell row c) with
    | some (year, month, _) => .text (Moment.monthText year month)
    | none => .null
  | .whenAtMost c bound result =>
    if t.compares row .atMost c bound then result.eval t row else .null

/-- Whether a row meets a condition. -/
def Condition.holds (t : Table) (row : Row) : Condition → Bool
  | .between c low high => t.compares row .atLeast c low && t.compares row .atMost c high
  | .yearIs c year =>
    match Moment.dayOfCell? (t.cell row c) with
    | some (y, _, _) => compare .blob .binary .equal (.text (Moment.yearText y)) year = some true
    | none => false
  | .equals c value => t.compares row .equal c value
  | .atLeast c low => t.compares row .atLeast c low

/-- The cells that a term gives rows to be summed up. Only where different ones are counted does
it matter how texts compare. -/
def Term.evalAll (t : Table) (rows : List Row) (a : Aggregate) (term : Term) : List Cell :=
  match a, term with
  | .countDistinct, .column c => rows.map fun row => (t.collation c).cell (t.cell row c)
  | _, _ => rows.map (term.eval t)

/-! ## Laws -/

theorem Table.compares_null (t : Table) (row : Row) (op : Comparison) (name : String) :
    t.compares row op name .null = false := by
  simp [compares, compare]

end SalesLedger.Sql
