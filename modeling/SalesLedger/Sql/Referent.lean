import SalesLedger.Sql.RowValue

/-!
# Referents

What the names mean by which a query orders and groups rows, and in which order it wants to read
them. The answer may have names of its own beside those of the table.

Main statement: `wish?_of_groups`, where rows are grouped, the order among them does not matter.
-/

namespace SalesLedger.Sql

/-- What a name in an ordering or grouping refers to. -/
inductive Referent where
  | column (i : Nat)
  | output (i : Nat)
  | literal (s : String)
  deriving DecidableEq

namespace Select

def answerColumns (s : Select) (t : Table) : List Output :=
  s.outputs.getD (t.columns.map fun c => ⟨.plain (.column c.name), none⟩)

/-- The column of the answer that has a name of its own. -/
def named? (s : Select) (name : String) : Option Nat :=
  (s.outputs.getD []).findIdx? fun o =>
    match o.name? with
    | some n => Text.equalAscii n name
    | none => false

/-- What a name means where rows are ordered: the answer's own names come first. -/
def orderReferent (s : Select) (t : Table) (name : String) : Referent :=
  match s.named? name with
  | some i => .output i
  | none =>
    match t.index? name with
    | some i => .column i
    | none => .literal name

/-- What a name means where rows are grouped: the table's names come first. -/
def groupReferent (s : Select) (t : Table) (name : String) : Referent :=
  match t.index? name with
  | some i => .column i
  | none =>
    match s.named? name with
    | some i => .output i
    | none => .literal name

/-- How the texts of a referent compare. -/
def collation (s : Select) (t : Table) (r : Referent) : Collation :=
  match r with
  | .column i => t.collationAt i
  | .output i =>
    match ((s.answerColumns t)[i]?).map Output.selection with
    | some (.plain (.column c)) => t.collation c
    | _ => .binary
  | .literal _ => .binary

/-- The value that a referent gives a row for grouping. -/
def groupValue (s : Select) (t : Table) (r : Referent) (row : Row) : Cell :=
  match r with
  | .column i => row.cell i
  | .output i =>
    match (s.answerColumns t)[i]? with
    | some o => o.selection.term.eval t row
    | none => .null
  | .literal s => .text s

/-- The key that a referent gives a row for grouping: rows with equal keys are one group. -/
def groupKey (s : Select) (t : Table) (r : Referent) (row : Row) : Cell :=
  (s.collation t r).cell (s.groupValue t r row)

end Select

/-- Whether a selection sums up. -/
def Selection.isAggregate : Selection → Bool
  | .plain _ => false
  | _ => true

namespace Select

/-- Whether rows are summed up at all. -/
def isSummary (s : Select) : Bool :=
  s.groupBy.isSome || (s.outputs.getD []).any fun o => o.selection.isAggregate

/-- Whether the order asked for is the one in which groups come anyway. -/
def inGroupOrder (s : Select) (t : Table) : Bool :=
  match s.orderBy, s.groupBy with
  | none, _ => true
  | some (name, _), some group => s.orderReferent t name = s.groupReferent t group
  | some _, none => false

/-- The direction of the order asked for. -/
def direction (s : Select) : SortOrder :=
  (s.orderBy.map (·.2)).getD .ascending

/-- The column whose values the rows are wanted in the order of: that of the groups, or that of
the rows where nothing is summed up. -/
def wish? (s : Select) (t : Table) : Option Nat :=
  let referent? :=
    match s.groupBy with
    | some group => some (s.groupReferent t group)
    | none => if s.isSummary then none else (s.orderBy.map Prod.fst).map (s.orderReferent t)
  match referent? with
  | some (.column i) => some i
  | _ => none

/-- The places of the columns that the query groups and orders by. -/
def placeNames (s : Select) (t : Table) : List (Option Nat) :=
  let place : Referent → Option Nat
    | .column i => some i
    | _ => none
  [s.groupBy.bind fun n => place (s.groupReferent t n),
    (s.orderBy.map Prod.fst).bind fun n => place (s.orderReferent t n)]

/-- Whether rows are wanted in some order, or in groups. -/
def wantsOrder (s : Select) : Bool :=
  s.groupBy.isSome || (s.orderBy.isSome && !s.isSummary)

/-! ## Laws -/

theorem wish?_of_groups {s : Select} {t : Table} {group : String} {i : Nat}
    (h : s.groupBy = some group) (hi : s.groupReferent t group = .column i) :
    s.wish? t = some i := by
  simp [wish?, h, hi]

end Select

end SalesLedger.Sql
