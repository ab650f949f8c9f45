import SalesLedger.Sql.Scan

/-!
# Answering queries

What a query of a table answers. Groups come in the order of their key, which runs in the direction
of the query's order. What is not summed up has the value of the first row of its group. Of two
columns of the answer with one name the later counts.

Main statement: `length_capped`, no more rows are answered than the cap allows.
-/

namespace SalesLedger.Sql

/-- The value of a selection for a group of rows. What is not summed up is that of the first. -/
def Selection.eval (t : Table) (rows : List Row) : Selection → Except Fault Cell
  | .plain term =>
    match rows with
    | row :: _ => .ok (term.eval t row)
    | [] => .ok .null
  | .aggregate a term => a.apply (term.evalAll t rows a)
  | .aggregateOrZero a term => do
    match ← a.apply (term.evalAll t rows a) with
    | .null => pure (.integer 0)
    | c => pure c

/-- A row of the answer with the key that it is ordered by. -/
structure Answered where
  cells : List Cell
  key : Cell

namespace Select

/-- The groups that rows are summed up in: those that are together where rows are read in groups, or
else in the direction of the query's order. Without a grouping all rows are one group, even if there
are none. -/
def groups (s : Select) (t : Table) : List (List Row) :=
  match s.groupBy with
  | none => [s.taken t]
  | some name =>
    let key := s.groupKey t (s.groupReferent t name)
    let isOrdered := (s.route? t).any (s.isOrdered t)
    runs key (if isOrdered then s.taken t else order s.direction key (s.taken t))

/-- The answer's row for a group. -/
def answer (s : Select) (t : Table) (rows : List Row) : Except Fault Answered := do
  let cells ← (s.answerColumns t).mapM fun o => o.selection.eval t rows
  let key : Cell :=
    match s.orderBy with
    | none => .null
    | some (name, _) =>
      match s.orderReferent t name with
      | .output i => cells.getD i .null
      | .column i => ((rows.head?).map fun row => row.cell i).getD .null
      | .literal text => .text text
  let collation : Collation :=
    match s.orderBy with
    | none => .binary
    | some (name, _) => s.collation t (s.orderReferent t name)
  pure ⟨cells, collation.cell key⟩

/-- The first rows, as many as the cap allows. -/
def capped {α : Type} (s : Select) (xs : List α) : List α :=
  match s.limit with
  | some n => xs.take n
  | none => xs

/-- The answer's rows in order, capped. Groups that the cap leaves out are not worked out where
their order is known beforehand. -/
def rows (s : Select) (t : Table) : Except Fault (List (List Cell)) :=
  let groups := if s.isSummary then s.groups t else (s.taken t).map fun row => [row]
  if s.limit = some 0 then .ok []
  else if s.inGroupOrder t then do
    pure ((← (s.capped groups).mapM (s.answer t)).map Answered.cells)
  else do
    let answers ← groups.mapM (s.answer t)
    pure ((s.capped (order s.direction Answered.key answers)).map Answered.cells)

/-- The name of a column of the answer: its own, or the table's, or, for a name that the table
lacks, that name in quotes. -/
def outputName (t : Table) (o : Output) : String :=
  match o.name?, o.selection with
  | some n, _ => n
  | none, .plain (.column c) =>
    match t.index? c with
    | some i => (t.columns[i]?.map Column.name).getD c
    | none => Lexeme.text [.name c]
  | none, selection => Lexeme.text selection.lexemes

/-- The rows of the answer as fields by name; of two columns with one name the later counts. -/
def run (s : Select) (t : Table) : Except Fault (List Json.Fields) := do
  let names := (s.answerColumns t).map (outputName t)
  pure ((← s.rows t).map fun cells => Json.Fields.ofList (names.zip (cells.map Cell.toJson)))

end Select

/-! ## Laws -/

theorem Select.length_capped {α : Type} {s : Select} {n : Nat} (h : s.limit = some n)
    (xs : List α) : (s.capped xs).length ≤ n := by
  simp only [capped, h, List.length_take]
  exact Nat.min_le_left _ _

end SalesLedger.Sql
