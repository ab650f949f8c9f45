import SalesLedger.Sql.Declaration

/-!
# Tables

A table has a layout and rows of cells. Every row has a number; a column of the table may show it.
The rows are kept in the order of their numbers, or by the primary key where the layout says so.

Main statements: `place_perm`, a row is put among others without a change to them, and
`mem_place`, it is among them afterwards.
-/

namespace SalesLedger.Sql

/-- A row: its number, and a cell for each column. -/
structure Row where
  number : Int
  cells : List Cell
  deriving DecidableEq

/-- The cell of a row at a place. -/
def Row.cell (r : Row) (i : Nat) : Cell :=
  r.cells.getD i .null

/-- A table. -/
structure Table extends Layout where
  name : String
  rows : List Row := []
  /-- The greatest number that a row was ever inserted under, also one that was left out. -/
  counted : Int := 0
  deriving DecidableEq

namespace Table

def create (name : String) (layout : Layout) : Table :=
  { layout with name }

/-- An empty table with declared columns. -/
def declare (name : String) (columns : List (String × String)) : Table :=
  create name (Layout.declare columns)

def placed (t : Table) : List (Column × Nat) :=
  t.columns.zipIdx

/-! ## Numbers of rows -/

/-- The greatest number of some rows, zero where there are none. -/
def greatest : List Row → Int
  | [] => 0
  | row :: rows => rows.foldl (fun n row => max n row.number) row.number

/-- The number for a row that has none. -/
def nextNumber (t : Table) : Except Fault Int :=
  let last := if t.numbering?.any Numbering.isCounter then t.counted else greatest t.rows
  if last < 0x7fffffffffffffff then .ok (last + 1) else .error .full

/-- The table when it has seen the number of a row. -/
def counting (t : Table) (number : Int) : Table :=
  if t.numbering?.isSome then { t with counted := max t.counted number } else t

/-! ## Keys -/

/-- The cells of a row in a key, with the differences that do not count taken out. -/
def keyCells (k : Key) (row : Row) : List Cell :=
  k.parts.map fun p => p.collation.cell (row.cell p.place)

/-- Whether two rows have the same values in a key. Nothing equals nothing here. -/
def meets (k : Key) (row other : Row) : Bool :=
  k.parts.all fun p =>
    row.cell p.place ≠ .null && other.cell p.place ≠ .null &&
      (p.collation.cell (row.cell p.place)).same (p.collation.cell (other.cell p.place))

/-- Whether one row comes before another or beside it in a key. -/
def keyLe : List KeyPart → Row → Row → Bool
  | [], _, _ => true
  | p :: ps, a, b =>
    let x := p.collation.cell (a.cell p.place)
    let y := p.collation.cell (b.cell p.place)
    if x.same y then keyLe ps a b
    else
      match p.direction with
      | .ascending => x.le y
      | .descending => y.le x

/-- Whether a row stands before one that is put among others. -/
def precedes (t : Table) (a b : Row) : Bool :=
  if t.isKeyed then keyLe ((t.primary?.map Key.parts).getD []) a b else a.number < b.number

/-- The rows with one more, behind those that stand before it. -/
def place (t : Table) (row : Row) : List Row → List Row
  | [] => [row]
  | r :: rest => if t.precedes r row then r :: t.place row rest else row :: r :: rest

/-! ## Laws -/

theorem counting_columns (t : Table) (number : Int) : (t.counting number).columns = t.columns := by
  unfold counting
  split <;> rfl

theorem place_perm (t : Table) (row : Row) (rows : List Row) :
    (t.place row rows).Perm (row :: rows) := by
  induction rows with
  | nil => exact .refl _
  | cons r rest ih =>
    rw [place]
    split
    · exact (ih.cons r).trans (.swap row r rest)
    · exact .refl _

theorem mem_place {t : Table} {row r : Row} {rows : List Row} :
    r ∈ t.place row rows ↔ r = row ∨ r ∈ rows := by
  rw [(t.place_perm row rows).mem_iff, List.mem_cons]

end Table

end SalesLedger.Sql
