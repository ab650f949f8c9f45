import SalesLedger.Text.Blank
import SalesLedger.Text.Case

/-!
# Parameter sets

What a caller may ask of a ledger: two axes, a way to sum up, a filter, an order, a cap and a
period. Every part may be absent; the empty set asks for everything.

Main statements: `Aggregation.parse_word`, `SortOrder.parse_word`, each word reads as what it is
written for.
-/

namespace SalesLedger

/-- How the rows of a group are summed up. -/
inductive Aggregation where
  | sum
  | count
  | average
  | none
  deriving Repr, DecidableEq

/-- The direction of an order. -/
inductive SortOrder where
  | ascending
  | descending
  deriving Repr, DecidableEq

/-- What a column has to equal. -/
inductive FilterValue where
  | text (s : String)
  | integer (n : Int)
  | real (x : Float)
  | bool (b : Bool)
  deriving DecidableEq

/-- What a caller asks for. -/
structure ParameterSet where
  /-- The column of the categories. -/
  xAxis : Option String
  /-- The column that is measured, or the revenue. -/
  yAxis : Option String
  aggregation : Aggregation
  filterColumn : Option String
  filterValue : Option FilterValue
  sortBy : Option String
  sortOrder : SortOrder
  /-- The greatest number of rows. -/
  limit : Option Nat
  timePeriod : Option String
  deriving DecidableEq

namespace Aggregation

/-- The words for a way to sum up. -/
def words : List (String × Aggregation) :=
  [("sum", sum), ("count", count), ("average", average), ("avg", average), ("none", none),
    ("", none)]

/-- Reads a word in any case, blanks at its ends left out. -/
def parse (raw : String) : Option Aggregation :=
  words.lookup (Text.lowerAscii (Text.trim raw))

/-- The first word for a way to sum up. -/
def word : Aggregation → String
  | sum => "sum"
  | count => "count"
  | average => "average"
  | none => "none"

end Aggregation

namespace SortOrder

def words : List (String × SortOrder) :=
  [("asc", ascending), ("ascending", ascending), ("desc", descending),
    ("descending", descending)]

/-- Reads a word in any case, blanks at its ends left out. -/
def parse (raw : String) : Option SortOrder :=
  words.lookup (Text.lowerAscii (Text.trim raw))

/-- The first word for a direction. -/
def word : SortOrder → String
  | ascending => "asc"
  | descending => "desc"

end SortOrder

namespace ParameterSet

/-- The set that asks for everything. -/
def empty : ParameterSet where
  xAxis := Option.none
  yAxis := Option.none
  aggregation := .none
  filterColumn := Option.none
  filterValue := Option.none
  sortBy := Option.none
  sortOrder := .descending
  limit := Option.none
  timePeriod := Option.none

/-- Whether a set asks for everything. -/
def isEmpty (p : ParameterSet) : Bool :=
  p = empty

end ParameterSet

/-! ## Laws -/

theorem Aggregation.parse_word (a : Aggregation) : parse a.word = some a := by
  cases a <;> decide

theorem SortOrder.parse_word (o : SortOrder) : parse o.word = some o := by
  cases o <;> decide

end SalesLedger
