import SalesLedger.Calendar.Timestamp
import SalesLedger.Decimal.Binary64
import SalesLedger.Json.Value
import SalesLedger.Query.Compile

/-!
# Presenting rows

What happens to the rows of an answer before a caller sees them: their dates are brought into one
form, and for a chart they are ordered and capped once more, by a column of the rows themselves.
Rows without a value in that column come last in either direction, and rows that the order cannot
tell apart keep their order.

Main statements: `length_normalizeDates` and `sorted_perm`, neither step adds or loses rows.
-/

namespace SalesLedger

/-- How rows are ordered and capped for a caller. -/
structure Presentation where
  /-- Columns to order by; the first that the rows have counts. -/
  sortCandidates : List String
  sortOrder : SortOrder
  limit : Option Nat
  deriving Repr, DecidableEq

namespace Presentation

/-- The presentation of a chart: by the column to sort by, otherwise by the measure. -/
def forChart (p : ParameterSet) : Presentation where
  sortCandidates :=
    p.sortBy.toList ++
      match p.yAxis with
      | some y =>
        if Text.equalAscii y Query.priceColumn && p.aggregation = .sum then
          [Query.totalSales, y]
        else [y]
      | none => []
  sortOrder := p.sortOrder
  limit := p.limit

/-! ## Dates -/

/-- A value as a date in its usual form, or nothing. -/
def normalizeDate : Json → Json
  | .text s =>
    match Calendar.Date.ofRecordText? s with
    | some d => .text d.text
    | none => .null
  | _ => .null

/-- A row with its date in the usual form. -/
def normalizeRow (row : Json.Fields) : Json.Fields :=
  match row.get? Query.dateColumn with
  | some v => row.put Query.dateColumn (normalizeDate v)
  | none => row

/-- Rows with their dates in the usual form. -/
def normalizeDates (rows : List Json.Fields) : List Json.Fields :=
  rows.map normalizeRow

/-! ## Order -/

/-- The place of a kind of value among the kinds. -/
def rank : Json → Nat
  | .null => 0
  | .bool _ => 1
  | .integer _ | .real _ => 2
  | .text _ => 3
  | .array _ => 4
  | .object _ => 5

/-- The place of a number among numbers: whole numbers count as the doubles nearest to them. -/
def magnitude : Json → Int
  | .integer n => Decimal.Binary64.unitsOfInt (Decimal.Binary64.rounded n)
  | .real x => Decimal.Binary64.units x
  | _ => 0

/-- Whether one value comes before another or is level with it. -/
def le (a b : Json) : Bool :=
  if rank a = rank b then
    match a, b with
    | .bool x, .bool y => !x || y
    | .text s, .text t => s ≤ t
    | _, _ => magnitude a ≤ magnitude b
  else rank a ≤ rank b

/-- The value of a row in a column; a null is none. -/
def valueIn (column : String) (row : Json.Fields) : Option Json :=
  (row.get? column).filter fun v => !v.isNull

/-- Whether one row may stand before another. -/
def before (column : String) (direction : SortOrder) (a b : Json.Fields) : Bool :=
  match valueIn column a, valueIn column b with
  | _, none => true
  | none, some _ => false
  | some l, some r =>
    match direction with
    | .ascending => le l r
    | .descending => le r l

/-- The column that rows are ordered by: the first candidate that the first row has, in any
case. -/
def sortColumn? (candidates : List String) (rows : List Json.Fields) : Option String :=
  match rows with
  | [] => none
  | first :: _ =>
    candidates.findSome? fun c =>
      (first.map (·.1)).find? fun key => Text.lower key == Text.lower c

/-- Rows in the order of a presentation. -/
def sorted (p : Presentation) (rows : List Json.Fields) : List Json.Fields :=
  match sortColumn? p.sortCandidates rows with
  | some column => rows.mergeSort (before column p.sortOrder)
  | none => rows

/-- Rows ordered and capped. -/
def shape (p : Presentation) (rows : List Json.Fields) : List Json.Fields :=
  match p.limit with
  | some n => (p.sorted rows).take n
  | none => p.sorted rows

/-! ## Laws -/

theorem length_normalizeDates (rows : List Json.Fields) :
    (normalizeDates rows).length = rows.length := by
  simp [normalizeDates]

theorem sorted_perm (p : Presentation) (rows : List Json.Fields) :
    (p.sorted rows).Perm rows := by
  unfold sorted
  split
  · exact List.mergeSort_perm _ _
  · exact List.Perm.refl _

end Presentation

end SalesLedger
