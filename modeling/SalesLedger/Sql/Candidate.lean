import SalesLedger.Sql.Expression.Names
import SalesLedger.Sql.Table

/-!
# Rows to be

A row before it stands in a table: columns are worked out by others, values that have to be there
are looked for, and conditions are looked at. A row that breaks a rule is refused or left out.

Main statements: `number_workedOut`, working columns out leaves the number of a row, and
`workedOut_of_plain`, where no column is worked out, the values are only turned into what their
columns store.
-/

namespace SalesLedger.Sql

/-- A row that is in no table yet: its number, and a value for each column. -/
structure Candidate where
  number : Int
  values : List Value
  deriving DecidableEq

namespace Candidate

def value (c : Candidate) (i : Nat) : Value :=
  c.values.getD i .null

/-- The candidate with a value at a place. -/
def set (c : Candidate) (i : Nat) (v : Value) : Candidate :=
  { c with values := c.values.set i v }

def row (c : Candidate) : Row :=
  ⟨c.number, c.values.map Value.cell⟩

def ofRow (r : Row) : Candidate :=
  ⟨r.number, r.cells.map Value.ofCell⟩

end Candidate

/-- Why a row is not inserted. -/
inductive Refusal where
  | fault (f : Fault)
  /-- It is left out, and the statement goes on. -/
  | skipped
  deriving Repr, DecidableEq

/-- What comes of an expression, where one without a value refuses the row. -/
def Refusal.ofValue {α : Type} (x : Except ValueFault α) : Except Refusal α :=
  x.mapError fun f => .fault (.noValue f)

def Column.storeValue (c : Column) (v : Value) : Value :=
  { v with cell := c.store v.cell }

/-- The value of a row that gives none for a column. -/
def Column.fallback (c : Column) (session : Session) : Except ValueFault Value :=
  match c.fallback?.bind Expression.ofText? with
  | some e => e.eval { field? := fun _ => none, purpose := .fallback, session }
  | none => .ok .null

namespace Table

/-- The names that conditions may mean the number of a row by. -/
def numberNames : List String := ["rowid", "oid", "_rowid_"]

/-- What a name means in a row. -/
def field? (t : Table) (purpose : Purpose) (c : Candidate) (name : String) : Option Field :=
  match t.index? name with
  | some i => some ⟨c.value i, t.affinityAt i, t.collationAt i⟩
  | none =>
    if purpose = .check ∧ !t.isKeyed ∧ numberNames.contains (Text.lowerAscii name) then
      some ⟨.integer c.number, .integer, .binary⟩
    else none

/-- What an expression for a row may refer to. -/
def scope (t : Table) (session : Session) (purpose : Purpose) (c : Candidate) : Scope :=
  { field? := t.field? purpose c, purpose, session }

/-- A row with its values as their columns store them. -/
def stored (t : Table) (c : Candidate) : Candidate :=
  { c with values := (t.columns.zip c.values).map fun (column, v) => column.storeValue v }

/-! ## Columns that are worked out -/

/-- The columns that are worked out, each with its expression. -/
def formulas (t : Table) : List (Nat × Expression) :=
  t.placed.filterMap fun (c, i) => (c.computed?.bind Expression.ofText?).map fun e => (i, e)

/-- Whether an expression names one of some columns. -/
def waits (t : Table) (e : Expression) (pending : List (Nat × Expression)) : Bool :=
  e.names.any fun n => pending.any fun p => t.index? n = some p.1

/-- A row with those columns worked out that wait for no others, and the columns that do. -/
def workThrough (t : Table) (session : Session) :
    List (Nat × Expression) → List (Nat × Expression) → Candidate →
      Except ValueFault (List (Nat × Expression) × Candidate)
  | [], waiting, c => .ok (waiting, c)
  | (i, e) :: rest, waiting, c =>
    if t.waits e (waiting ++ (i, e) :: rest) then workThrough t session rest (waiting ++ [(i, e)]) c
    else
      match e.eval (t.scope session .computed c) with
      | .ok v =>
        let v := ((t.columns[i]?).map fun column => column.storeValue v).getD v
        workThrough t session rest waiting (c.set i v)
      | .error f => .error f

/-- A row with columns worked out, those that wait for others after them, in so many rounds. -/
def workRounds (t : Table) (session : Session) :
    Nat → List (Nat × Expression) → Candidate → Except ValueFault Candidate
  | 0, _, c => .ok c
  | rounds + 1, pending, c =>
    match workThrough t session pending [] c with
    | .ok p => workRounds t session rounds p.1 p.2
    | .error f => .error f

/-- A row with all its columns worked out. -/
def workedOut (t : Table) (session : Session) (c : Candidate) : Except ValueFault Candidate :=
  t.workRounds session t.formulas.length t.formulas (t.stored c)

/-! ## Values that have to be there -/

/-- The value of a column that may have to be there. One that is worked out has no other. -/
def filledValue (t : Table) (session : Session) (c : Column) (v : Value) :
    Except Refusal Value :=
  match if v.isNull then c.required? else none with
  | none => .ok v
  | some .ignore => .error .skipped
  | some .abort => .error (.fault (.missingValue t.name c.name))
  | some .replace =>
    if c.fallback?.isSome then Refusal.ofValue (c.fallback session)
    else .error (.fault (.missingValue t.name c.name))

/-- A row whose given columns have the values that they have to have. -/
def filled (t : Table) (session : Session) (c : Candidate) : Except Refusal Candidate := do
  let values ← (t.placed.zip c.values).mapM fun ((column, i), v) =>
    if column.isComputed || t.numberIndex? = some i then .ok v else t.filledValue session column v
  pure { c with values }

/-- Why a row cannot stay that has been filled: a column without a value that is worked out or has
no other in its place. -/
def stillMissing? (t : Table) (c : Candidate) : Option Refusal :=
  (t.placed.zip c.values).findSome? fun ((column, i), v) =>
    if v.isNull && t.numberIndex? ≠ some i then
      match column.required? with
      | none => none
      | some .ignore => if column.isComputed then some .skipped else none
      | some _ => some (.fault (.missingValue t.name column.name))
    else none

/-! ## Types and conditions -/

/-- The name of a cell's type. -/
def typeName : Cell → String
  | .null => "NULL"
  | .integer _ => "INT"
  | .real _ => "REAL"
  | .text _ | .malformed _ => "TEXT"
  | .blob _ => "BLOB"

/-- The types of columns that take only cells of their types. -/
def typeNames : List String := ["ANY", "BLOB", "INT", "INTEGER", "REAL", "TEXT"]

/-- Whether a column of a type takes a cell. -/
def accepts (type : String) (x : Cell) : Bool :=
  x = .null || type == "ANY" || typeName x == if type == "INTEGER" then "INT" else type

/-- The first value, of those wanted, that is not of its column's type, where the columns take no
others. -/
def typeFault? (t : Table) (wanted : Column → Bool) (c : Candidate) : Option Fault :=
  if t.isStrict then
    (t.columns.zip c.values).findSome? fun (column, v) =>
      let type := (typeNames.find? (Text.equalAscii column.type)).getD "ANY"
      if !wanted column || accepts type v.cell then none
      else some (.wrongType (typeName v.cell) type t.name column.name)
  else none

/-- Whether the values of a column are given. -/
def isGiven (c : Column) : Bool :=
  !c.isComputed

/-- Whether the values of a column are kept with the rows. -/
def isKept (c : Column) : Bool :=
  isGiven c || c.isStored

/-- A row with all its columns worked out. Where there are such columns, the given values have to be
of the right types before. -/
def worked (t : Table) (session : Session) (c : Candidate) : Except Refusal Candidate :=
  match if t.formulas.isEmpty then none else t.typeFault? isGiven (t.stored c) with
  | some f => .error (.fault f)
  | none => Refusal.ofValue (t.workedOut session c)

/-- The name of the first of some conditions that is false of a row. -/
def failing? (t : Table) (session : Session) (c : Candidate) :
    List Check → Except ValueFault (Option String)
  | [] => .ok none
  | check :: rest =>
    match Expression.ofText? check.condition with
    | none => failing? t session c rest
    | some e =>
      match e.holds (t.scope session .check c) true with
      | .ok true => failing? t session c rest
      | .ok false => .ok (some check.name)
      | .error f => .error f

/-- A row that keeps the rules of the table, but for keys and references. -/
def ready (t : Table) (session : Session) (c : Candidate) : Except Refusal Candidate := do
  let c ← t.worked session c
  let c ← t.filled session c
  let c ← t.worked session c
  match t.stillMissing? c, t.typeFault? isKept c with
  | some r, _ => throw r
  | none, some f => throw (.fault f)
  | none, none =>
    match ← Refusal.ofValue (t.failing? session c t.checks) with
    | some name => throw (.fault (.checkFailed name))
    | none => pure c

/-! ## Laws -/

theorem workedOut_of_plain {t : Table} {session : Session} {c : Candidate}
    (h : t.formulas = []) : t.workedOut session c = .ok (t.stored c) := by
  simp [workedOut, h, workRounds]

theorem number_stored (t : Table) (c : Candidate) : (t.stored c).number = c.number := rfl

theorem number_workThrough {t : Table} {session : Session}
    {todo waiting left : List (Nat × Expression)} {c d : Candidate}
    (h : t.workThrough session todo waiting c = .ok (left, d)) : d.number = c.number := by
  induction todo generalizing waiting c with
  | nil =>
    cases h
    rfl
  | cons p rest ih =>
    rw [workThrough] at h
    split at h
    · exact ih h
    · split at h
      · have hset := ih h
        exact hset
      · cases h

theorem number_workRounds {t : Table} {session : Session} {rounds : Nat}
    {pending : List (Nat × Expression)} {c d : Candidate}
    (h : t.workRounds session rounds pending c = .ok d) : d.number = c.number := by
  induction rounds generalizing pending c with
  | zero =>
    cases h
    rfl
  | succ rounds ih =>
    rw [workRounds] at h
    split at h
    · rename_i p hp
      obtain ⟨left, worked⟩ := p
      exact (ih h).trans (number_workThrough hp)
    · cases h

theorem number_workedOut {t : Table} {session : Session} {c d : Candidate}
    (h : t.workedOut session c = .ok d) : d.number = c.number := by
  rw [workedOut] at h
  rw [← t.number_stored c]
  exact number_workRounds h

end Table

end SalesLedger.Sql
