import SalesLedger.Sql.Affinity
import SalesLedger.Sql.Collation

/-!
# Columns

What a table knows of a column: what its cells are turned into, how its texts compare, which value
a row has that gives none, and how it is worked out by others. Expressions are kept as they are
written.

Main statement: `store_null`, nothing is stored as nothing.
-/

namespace SalesLedger.Sql

/-- What becomes of a row that breaks a rule. -/
inductive Resolution where
  /-- The statement fails. -/
  | abort
  /-- The row is left out. -/
  | ignore
  /-- What stands in its way gives way. -/
  | replace
  deriving Repr, DecidableEq

/-- A column of a table. -/
structure Column where
  name : String
  /-- The declared type. -/
  type : String := ""
  affinity : Affinity
  collation : Collation := .binary
  /-- The room that a cell is taken to need. -/
  width : Nat := 1
  /-- The expression of the value that a row has that gives none. -/
  fallback? : Option String := none
  /-- The expression that the column is worked out by. -/
  computed? : Option String := none
  /-- Whether what is worked out is kept with the row. -/
  isStored : Bool := false
  /-- What becomes of a row without a value, where it has to have one. -/
  required? : Option Resolution := none
  deriving DecidableEq

namespace Column

/-- Whether the column is worked out by others. -/
def isComputed (c : Column) : Bool :=
  c.computed?.isSome

def store (c : Column) (x : Cell) : Cell :=
  c.affinity.store x

/-! ## Laws -/

theorem store_null (c : Column) : c.store .null = .null :=
  Affinity.store_null c.affinity

end Column

end SalesLedger.Sql
