import SalesLedger.Config
import SalesLedger.Ledger
import SalesLedger.Schema
import SalesLedger.Sql.Transaction
import SalesLedger.Steps
import SalesLedger.Storage.Handle

/-!
# Ledgers on disk

Keeping sales in files: one database for each tenant and the master database. Making a ledger that
is there changes nothing. Sales are appended to the tenant's ledger all or none, and only then to
the master ledger; when the second step fails, the first stays. Reading makes no file.

Every operation gives its answer together with the disk that it leaves behind.

Main statements: `append_nil`, appending no sales does nothing, and `node?_of_ensureTable` and
`node?_of_insertInto`, writing to one database leaves all other places as they were.
-/

namespace SalesLedger.Storage

open Sql

/-- An answer or a failure, and the disk that is left. -/
abbrev Outcome (α : Type) := Except Failure α × Disk

namespace Store

variable (config : Config)

/-- The path of a tenant's ledger. -/
def ledgerPath (t : Tenant) : String :=
  Path.join config.dataDir t.ledgerFile

/-- A failure of a tenant's database while something was done. -/
def storageFailure (t : Tenant) (action : String) (f : Fault) : Failure :=
  ⟨.storage, action ++ " for tenant " ++ t.id ++ ": " ++ f.message⟩

/-- A failure to make a tenant's ledger. -/
def creationFailure (t : Tenant) (f : Fault) : Failure :=
  ⟨.tableCreation, "tenant " ++ t.id ++ ": " ++ f.message⟩

/-- Whether a tenant has a ledger file. -/
def ledgerExists (d : Disk) (t : Tenant) : Bool :=
  d.exists? (ledgerPath config t)

/-! ## Making ledgers -/

/-- Makes a table in an opened database, unless it is there. -/
def ensureTable (d : Disk) (h : Handle) (t : Table) : Except Fault Disk := do
  let db ← h.database d
  if (db.table? t.name).isSome then pure d else h.write d (db ++ [t])

/-- Makes a tenant's ledger, unless it is there. -/
def ensureLedger (d : Disk) (t : Tenant) : Outcome Unit :=
  match d.makeDirectories config.dataDir with
  | (.error f, d) =>
    (.error ⟨.tableCreation, "creating " ++ config.dataDir ++ " for tenant " ++ t.id ++ ": " ++
      f.message⟩, d)
  | (.ok (), d) =>
    match Handle.ofText d .create (ledgerPath config t) with
    | .error f => (.error (creationFailure t f), d)
    | .ok (h, d) =>
      match ensureTable d h Ledger.emptyLedger with
      | .error f => (.error (creationFailure t f), d)
      | .ok d => (.ok (), d)

/-- Makes the master ledger, unless it is there. -/
def ensureMaster (d : Disk) : Outcome Unit :=
  match d.makeDirectories (Path.above config.masterPath) with
  | (.error f, d) => (.error ⟨.io, f.message⟩, d)
  | (.ok (), d) =>
    match Handle.ofText d .create config.masterPath with
    | .error f => (.error ⟨.tableCreation, "opening master ledger: " ++ f.message⟩, d)
    | .ok (h, d) =>
      match ensureTable d h Ledger.emptyMaster with
      | .error f => (.error ⟨.tableCreation, "creating master ledger: " ++ f.message⟩, d)
      | .ok d => (.ok (), d)

/-! ## Reading -/

/-- A tenant's database, opened to be read. -/
def openLedger (d : Disk) (t : Tenant) (action : String) : Except Failure Database :=
  let path := ledgerPath config t
  if d.exists? path then
    match Handle.ofText d .readOnly path with
    | .error f => .error (storageFailure t "opening ledger" f)
    | .ok (h, _) =>
      match h.database d with
      | .error f => .error (storageFailure t action f)
      | .ok db => .ok db
  else .error ⟨.storage, "no ledger for tenant " ++ t.id ++ " at " ++ path⟩

/-- The columns of a tenant's ledger that are given and not worked out, in the order of their
declaration. -/
def columns (d : Disk) (t : Tenant) : Except Failure (List String) := do
  let db ← openLedger config d t "reading schema"
  pure (((db.table? Ledger.table).map fun u => u.givenColumns).getD [])

/-- The schema that names are looked up in. A ledger that cannot be read has no columns. -/
def schema (d : Disk) (t : Tenant) : Schema :=
  match columns config d t with
  | .ok names => ⟨names⟩
  | .error _ => ⟨[]⟩

/-- The rows that answer a query of a tenant's ledger. -/
def query (d : Disk) (t : Tenant) (s : Select) : Except Failure (List Json.Fields) := do
  let db ← openLedger config d t "preparing query"
  match db.table? s.table with
  | none => throw (storageFailure t "preparing query" (.noSuchTable s.table))
  | some u =>
    match s.run u with
    | .ok rows => pure rows
    | .error f => throw (storageFailure t "reading rows" f)

/-- The rows that answer a query; none, where it fails. -/
def rows (d : Disk) (t : Tenant) (s : Select) : List Json.Fields :=
  match query config d t s with
  | .ok rows => rows
  | .error _ => []

/-! ## Writing -/

/-- Inserts rows into a table of an opened database. -/
def insertRows (db : Database) (table : String) (rows : List (List (String × Cell))) :
    Except Fault Transaction :=
  match db.table? table with
  | none => .error (.noSuchTable table)
  | some u => (Transaction.start u).insertAll rows

/-- What is done to a database, one after the other, for messages. -/
structure Actions where
  opening : String
  inserting : String
  committing : String

/-- What is done to a tenant's database. -/
def ledgerActions : Actions := ⟨"opening ledger", "inserting sale", "committing sales"⟩

/-- What is done to the master database. -/
def masterActions : Actions :=
  ⟨"opening master ledger", "syncing sale to master", "committing master sync"⟩

/-- What comes of something; a fault comes with what was being done. -/
def during {α : Type} (action : String) : Except Fault α → Except (String × Fault) α
  | .ok a => .ok a
  | .error f => .error (action, f)

/-- Inserts rows into a table of an opened database: all of them, or none. -/
def insertInto (d : Disk) (h : Handle) (actions : Actions) (table : String)
    (rows : List (List (String × Cell))) : Except (String × Fault) Disk := do
  let db ← during actions.inserting (h.database d)
  let x ← during actions.inserting (insertRows db table rows)
  let d ← during actions.inserting (h.write d (db.put x.table))
  let _ ← during actions.committing x.commit
  during actions.committing (h.settle d)

/-- Opens a database and inserts rows into one of its tables. -/
def insertAt (d : Disk) (t : Tenant) (path : String) (actions : Actions) (table : String)
    (rows : List (List (String × Cell))) : Outcome Unit :=
  match Handle.ofText d .create path with
  | .error f => (.error (storageFailure t actions.opening f), d)
  | .ok (h, d) =>
    match insertInto d h actions table rows with
    | .error (action, f) => (.error (storageFailure t action f), d)
    | .ok d => (.ok (), d)

/-- Writes sales to a tenant's ledger, which is made first unless it is there. -/
def appendToLedger (d : Disk) (t : Tenant) (sales : List Sale) : Outcome Unit :=
  match ensureLedger config d t with
  | (.error f, d) => (.error f, d)
  | (.ok (), d) =>
    insertAt d t (ledgerPath config t) ledgerActions Ledger.table (sales.map Sale.values)

/-- Writes a tenant's sales to the master ledger. -/
def appendToMaster (d : Disk) (t : Tenant) (sales : List Sale) : Outcome Unit :=
  match ensureMaster config d with
  | (.error f, d) => (.error f, d)
  | (.ok (), d) =>
    insertAt d t config.masterPath masterActions Ledger.masterTable
      (sales.map (Ledger.masterValues t))

/-- Appends sales to a tenant's ledger and to the master ledger; gives their number. -/
def append (d : Disk) (t : Tenant) (sales : List Sale) : Outcome Nat :=
  if sales.isEmpty then (.ok 0, d)
  else
    match appendToLedger config d t sales with
    | (.error f, d) => (.error f, d)
    | (.ok (), d) =>
      match appendToMaster config d t sales with
      | (.error f, d) => (.error f, d)
      | (.ok (), d) => (.ok sales.length, d)

/-! ## Laws -/

/-- How making a table ends well: it was there, or is written behind the others. -/
theorem ensureTable_ok {d after : Disk} {h : Handle} {t : Table}
    (hmade : ensureTable d h t = .ok after) :
    ∃ db, h.database d = .ok db ∧
      (after = d ∨ db.table? t.name = none ∧ h.write d (db ++ [t]) = .ok after) := by
  obtain ⟨db, hdb, hrest⟩ := bind_eq_ok_iff.1 hmade
  refine ⟨db, hdb, ?_⟩
  split at hrest
  · exact .inl (Except.ok.inj hrest).symm
  · rename_i hnone
    exact .inr ⟨Option.not_isSome_iff_eq_none.1 hnone, hrest⟩

theorem during_ok {α : Type} {action : String} {x : Except Fault α} {a : α}
    (h : during action x = .ok a) : x = .ok a := by
  cases x with
  | error f => cases h
  | ok b => exact congrArg _ (Except.ok.inj h)

/-- How inserting ends well: the rows are in the table, which is written in place of itself. -/
theorem insertInto_ok {d after : Disk} {h : Handle} {actions : Actions} {table : String}
    {rows : List (List (String × Cell))} (hmade : insertInto d h actions table rows = .ok after) :
    ∃ db u x written, h.database d = .ok db ∧ db.table? table = some u ∧
      (Transaction.start u).insertAll rows = .ok x ∧ h.write d (db.put x.table) = .ok written ∧
      (after = written ∨ after = written.tried) := by
  obtain ⟨db, hdb, hmade⟩ := bind_eq_ok_iff.1 hmade
  obtain ⟨x, hx, hmade⟩ := bind_eq_ok_iff.1 hmade
  obtain ⟨written, hwritten, hmade⟩ := bind_eq_ok_iff.1 hmade
  obtain ⟨_, -, hmade⟩ := bind_eq_ok_iff.1 hmade
  have hrows := during_ok hx
  unfold insertRows at hrows
  split at hrows
  · cases hrows
  · rename_i u hu
    exact ⟨db, u, x, written, during_ok hdb, hu, hrows, during_ok hwritten,
      Handle.eq_of_settle (during_ok hmade)⟩

theorem node?_of_ensureTable {d after : Disk} {h : Handle} {t : Table} {q : Place}
    (hq : h.place? ≠ some q) (hmade : ensureTable d h t = .ok after) :
    after.node? q = d.node? q := by
  obtain ⟨db, -, rfl | ⟨-, hwrite⟩⟩ := ensureTable_ok hmade
  · rfl
  · exact Handle.node?_of_write hq hwrite

theorem node?_of_insertInto {d after : Disk} {h : Handle} {actions : Actions} {table : String}
    {rows : List (List (String × Cell))} {q : Place} (hq : h.place? ≠ some q)
    (hmade : insertInto d h actions table rows = .ok after) : after.node? q = d.node? q := by
  obtain ⟨db, u, x, written, -, -, -, hwrite, rfl | rfl⟩ := insertInto_ok hmade
  · exact Handle.node?_of_write hq hwrite
  · rw [Disk.node?_tried]
    exact Handle.node?_of_write hq hwrite

theorem append_nil (d : Disk) (t : Tenant) : append config d t [] = (.ok 0, d) := rfl

end Store

end SalesLedger.Storage
