import SalesLedger.Sql.Removal

/-!
# Writing to tables

Rows are inserted into a table one after the other. A row whose number or values are there already
is refused, left out, or makes others give way. What it refers to has to be there when it is in, or
when the transaction ends.

Main statements: `columns_insert`, inserting a row leaves the columns as they are,
`settled_of_free`, a row that nothing stands in the way of makes nothing give way, and
`commit_of_nothing_missing`.
-/

namespace SalesLedger.Sql

/-- A table that is written to. -/
structure Transaction where
  table : Table
  session : Session := {}
  /-- How many references lack what they refer to. -/
  missing : Int := 0

/-- What may stand in the way of a row: the columns in which other rows have its values, which rows
these are, and what becomes of it then. -/
structure Barrier where
  columns : List String
  blocks : Row → Bool
  resolution : Resolution

namespace Table

/-! ## Rows in the way -/

/-- What may stand in the way of a row: its number, if that is given, and then keys; a number that
others give way to comes after them. -/
def barriers (t : Table) (isNumbered : Bool) (row : Row) : List Barrier :=
  let keys := t.orderedKeys.map fun k => ⟨k.places.map t.nameAt, meets k row, k.resolution⟩
  match if isNumbered then t.numbering? else none with
  | none => keys
  | some n =>
    let numbers : Barrier := ⟨[t.nameAt n.place], fun r => r.number = row.number, n.resolution⟩
    if n.resolution = .replace then keys ++ [numbers] else numbers :: keys

/-- The rows when one barrier is out of the way of a row. -/
def settle (t : Table) (session : Session) (links : List Link) (p : Progress) (b : Barrier) :
    Except Refusal Progress :=
  match p.rows.filter b.blocks with
  | [] => .ok p
  | others =>
    match b.resolution with
    | .abort => .error (.fault (.notUnique t.name b.columns))
    | .ignore => .error .skipped
    | .replace =>
      (others.foldlM (fun p r => t.remove session links (p.rows.length + 1) r p) p).mapError .fault

/-- The rows when nothing stands in the way of a row. What others became that gave way may do so
again. -/
def settled (t : Table) (session : Session) (links : List Link) (barriers : List Barrier)
    (p : Progress) : Except Refusal Progress := do
  let p ← barriers.foldlM (t.settle session links) p
  match barriers.find? fun b => b.resolution = .replace && p.rows.any b.blocks with
  | some b => throw (.fault (.notUnique t.name b.columns))
  | none => pure p

/-- The links that are followed from a new row. Where others may give way to it, the first link
that does something to rows left behind is passed over, if it clears them. -/
def followed (barriers : List Barrier) (links : List Link) : List Link :=
  match links.reverse.find? fun l => l.onRemoval ≠ .nothing with
  | some l =>
    if l.onRemoval = .clear ∧ barriers.any fun b => b.resolution = .replace then links.erase l
    else links
  | none => links

/-- The rows with one more. -/
def entered (t : Table) (session : Session) (links : List Link) (isNumbered : Bool) (c : Candidate)
    (p : Progress) : Except Refusal Progress := do
  let row := (← t.ready session c).row
  let barriers := t.barriers isNumbered row
  let p ← t.settled session links barriers p
  let p := (followed barriers links).foldl (t.fasten row p.rows) p
  let p := links.foldl (t.adopt row) p
  if 0 < p.missing then throw (.fault .keyFailed)
  else pure { p with rows := t.place row p.rows }

/-! ## Values of rows -/

/-- A row of values, with its number. -/
def numbered (t : Table) (values : List Value) : Except Fault Candidate :=
  match t.numberIndex? with
  | none => t.nextNumber.map fun n => ⟨n, values⟩
  | some i =>
    match Affinity.integer.store (values.getD i .null).cell with
    | .integer n => .ok ⟨n, values.set i (.integer n)⟩
    | .null => t.nextNumber.map fun n => ⟨n, values.set i (.integer n)⟩
    | _ => .error .datatypeMismatch

/-- Why no value can be given under a name. -/
def nameFault? (t : Table) (name : String) : Option Fault :=
  match t.columns.find? fun c => Text.equalAscii c.name name with
  | none => some (.noSuchColumn t.name name)
  | some c => if c.isComputed then some (.computedColumn name) else none

/-- The values that are given by name or that a row has that gives none. -/
def valuesOf (t : Table) (session : Session) (given : List (String × Cell)) :
    Except Fault (List Value) :=
  t.placed.mapM fun (c, i) =>
    match given.find? fun g => Text.equalAscii g.1 c.name with
    | some g => .ok (.ofCell g.2)
    | none =>
      if c.isComputed || t.numberIndex? = some i then .ok .null
      else (c.fallback session).mapError .noValue

/-- One value for each column, those left out that are worked out. -/
def spread : List Column → List Cell → List Value
  | [], _ => []
  | c :: cs, cells =>
    if c.isComputed then .null :: spread cs cells
    else .ofCell (cells.headD .null) :: spread cs (cells.drop 1)

end Table

namespace Transaction

/-- A table before anything is written to it. -/
def start (t : Table) : Transaction :=
  { table := t }

/-- The session when a row is in, under a number, and so many others changed. -/
def sessionAfter (s : Session) (t : Table) (number changes : Int) : Session :=
  { lastRow := if t.isKeyed then s.lastRow else number
    changed := 1
    total := s.total + 1 + changes }

/-- Inserts a row, whose number is given or not, or leaves it out. -/
def enter (x : Transaction) (links : List Link) (isNumbered : Bool) (c : Candidate) :
    Except Fault Transaction :=
  let t := x.table.counting c.number
  match t.entered x.session links isNumbered c { rows := t.rows, missingLater := x.missing } with
  | .ok p =>
    .ok
      { table := { t with rows := p.rows }
        session := sessionAfter x.session t c.number p.changes
        missing := p.missingLater }
  | .error .skipped => .ok { x with table := t, session := { x.session with changed := 0 } }
  | .error (.fault f) => .error f

/-- Inserts a row of named values. Every name has to be a column that is not worked out. -/
def insert (x : Transaction) (given : List (String × Cell)) : Except Fault Transaction :=
  match given.findSome? fun g => x.table.nameFault? g.1 with
  | some f => .error f
  | none => do
    let links ← x.table.links
    let isNumbered := given.any fun g => x.table.index? g.1 = x.table.numberIndex?
    x.enter links isNumbered (← x.table.numbered (← x.table.valuesOf x.session given))

/-- Inserts a row of cells for the columns that are not worked out, in their order. -/
def insertCells (x : Transaction) (cells : List Cell) : Except Fault Transaction := do
  let links ← x.table.links
  x.enter links true (← x.table.numbered (Table.spread x.table.columns cells))

/-- Inserts rows one after the other. -/
def insertAll (x : Transaction) (rows : List (List (String × Cell))) : Except Fault Transaction :=
  rows.foldlM insert x

/-- The table when all that was written holds. -/
def commit (x : Transaction) : Except Fault Table :=
  if 0 < x.missing then .error .keyFailed else .ok x.table

/-! ## Laws -/

theorem columns_enter {x y : Transaction} {links : List Link} {isNumbered : Bool} {c : Candidate}
    (h : x.enter links isNumbered c = .ok y) : y.table.columns = x.table.columns := by
  unfold enter at h
  dsimp only at h
  split at h
  · cases h
    exact Table.counting_columns x.table c.number
  · cases h
    exact Table.counting_columns x.table c.number
  · cases h

theorem columns_insert {x y : Transaction} {given : List (String × Cell)}
    (h : x.insert given = .ok y) : y.table.columns = x.table.columns := by
  unfold insert at h
  split at h
  · cases h
  · cases hl : x.table.links with
    | error f =>
      rw [hl] at h
      cases h
    | ok links =>
      cases hv : x.table.valuesOf x.session given with
      | error f =>
        rw [hl, hv] at h
        cases h
      | ok values =>
        cases hn : x.table.numbered values with
        | error f =>
          simp only [hl, hv, hn, bind, Except.bind] at h
          cases h
        | ok c =>
          simp only [hl, hv, hn, bind, Except.bind] at h
          exact columns_enter h

theorem commit_of_nothing_missing {x : Transaction} (h : x.missing = 0) :
    x.commit = .ok x.table := by
  simp [commit, h]

end Transaction

theorem Table.settle_of_free {t : Table} {session : Session} {links : List Link} {p : Progress}
    {b : Barrier} (h : p.rows.any b.blocks = false) : t.settle session links p b = .ok p := by
  have hnone : p.rows.filter b.blocks = [] := by simpa using h
  rw [settle, hnone]

theorem Table.settled_of_free {t : Table} {session : Session} {links : List Link}
    {barriers : List Barrier} {p : Progress} (h : ∀ b ∈ barriers, p.rows.any b.blocks = false) :
    t.settled session links barriers p = .ok p := by
  have hall : barriers.foldlM (t.settle session links) p = .ok p := by
    induction barriers with
    | nil => rfl
    | cons b bs ih =>
      rw [List.foldlM_cons, settle_of_free (h b (by simp))]
      exact ih fun b hb => h b (by simp [hb])
  have hfree : (barriers.find? fun b => b.resolution = .replace && p.rows.any b.blocks) = none := by
    rw [List.find?_eq_none]
    intro b hb
    simp [h b hb]
  simp only [settled, hall, bind, Except.bind, hfree]
  rfl

end SalesLedger.Sql
