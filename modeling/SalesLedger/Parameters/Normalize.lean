import SalesLedger.Decimal.Binary64
import SalesLedger.Decimal.Signed64
import SalesLedger.Json.Value
import SalesLedger.Parameters.Basic

/-!
# Parameter sets from JSON

A loose JSON object becomes a parameter set field by field. A field whose value is of no use is
left out, one field never changes another, and what is no object asks for everything.

Main statement: `ParameterSet.ofValues_congr`, a set depends on the nine known fields alone.
-/

namespace SalesLedger

/-! ## Fields -/

/-- A name: a text with something in it, blanks at its ends left out. -/
def nameOf? : Json → Option String
  | .text s => if Text.trim s = "" then none else some (Text.trim s)
  | _ => none

/-- The value of a filter. A whole number beyond 64 bits with a sign counts as a double. -/
def FilterValue.ofJson? : Json → Option FilterValue
  | .text s => some (.text s)
  | .bool b => some (.bool b)
  | .integer n => if Fits64 n then some (.integer n) else some (.real (Float.ofInt n))
  | .real x => some (.real x)
  | _ => none

/-- The greatest number of rows that can be asked for. -/
def largestLimit : Nat := 0xffffffffffffffff

/-- The number that a text spells, with or without a plus sign. -/
def limitOfText? (s : String) : Option Nat :=
  let digits :=
    match s.toList with
    | '+' :: rest => rest
    | cs => cs
  (Text.decimal? digits).filter (· ≤ largestLimit)

/-- A number of rows: a whole number that is not below zero, as a number or as a text. A double
of 2^64 asks for as many rows as can be asked for. -/
def limitOf? : Json → Option Nat
  | .integer n => if 0 ≤ n ∧ n ≤ largestLimit then some n.toNat else none
  | .real x =>
    match Decimal.Binary64.exactInt? x with
    | some n => if 0 ≤ n ∧ n ≤ largestLimit + 1 then some (min n.toNat largestLimit) else none
    | none => none
  | .text s => limitOfText? (Text.trim s)
  | _ => none

/-- A way to sum up; none, where the text names none. -/
def aggregationOf (v : Option Json) : Aggregation :=
  ((v.bind Json.text?).bind Aggregation.parse).getD .none

/-- A direction; descending, where the text names none. -/
def sortOrderOf (v : Option Json) : SortOrder :=
  ((v.bind Json.text?).bind SortOrder.parse).getD .descending

/-! ## Sets -/

namespace ParameterSet

/-- The keys of a parameter set. -/
def keys : List String :=
  ["x_axis", "y_axis", "aggregation", "filter_column", "filter_value", "sort_by", "sort_order",
    "limit", "time_period"]

/-- The set that the values under its keys ask for. -/
def ofValues (value? : String → Option Json) : ParameterSet where
  xAxis := (value? "x_axis").bind nameOf?
  yAxis := (value? "y_axis").bind nameOf?
  aggregation := aggregationOf (value? "aggregation")
  filterColumn := (value? "filter_column").bind nameOf?
  filterValue := (value? "filter_value").bind FilterValue.ofJson?
  sortBy := (value? "sort_by").bind nameOf?
  sortOrder := sortOrderOf (value? "sort_order")
  limit := (value? "limit").bind limitOf?
  timePeriod := (value? "time_period").bind nameOf?

/-- The set that a JSON value asks for. -/
def ofJson : Json → ParameterSet
  | .object fields => ofValues fun key => Json.Fields.get? key fields
  | _ => empty

def filterJson : Option FilterValue → Json
  | some (.text s) => .text s
  | some (.integer n) => .integer n
  | some (.real x) => .real x
  | some (.bool b) => .bool b
  | none => .null

/-- A set written as a JSON object under its nine keys. -/
def toJson (p : ParameterSet) : Json :=
  Json.ofFields [
    ("x_axis", Json.ofText? p.xAxis),
    ("y_axis", Json.ofText? p.yAxis),
    ("aggregation", .text p.aggregation.word),
    ("filter_column", Json.ofText? p.filterColumn),
    ("filter_value", filterJson p.filterValue),
    ("sort_by", Json.ofText? p.sortBy),
    ("sort_order", .text p.sortOrder.word),
    ("limit", match p.limit with | some n => .integer n | none => .null),
    ("time_period", Json.ofText? p.timePeriod)]

/-! ## Laws -/

theorem ofValues_congr {f g : String → Option Json} (h : ∀ key ∈ keys, f key = g key) :
    ofValues f = ofValues g := by
  simp only [keys, List.mem_cons, List.not_mem_nil, or_false, forall_eq_or_imp, forall_eq] at h
  obtain ⟨h1, h2, h3, h4, h5, h6, h7, h8, h9⟩ := h
  simp only [ofValues, h1, h2, h3, h4, h5, h6, h7, h8, h9]

theorem ofJson_empty : ofJson (.object []) = empty := rfl

end ParameterSet

end SalesLedger
