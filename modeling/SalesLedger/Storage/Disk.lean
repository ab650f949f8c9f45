import SalesLedger.Sql.Evaluate
import SalesLedger.Storage.Path

/-!
# The disk

What stands at the places of the file system: directories, databases, and files that are no
database. A database is a list of tables. A file of no bytes is a database without tables. The
system may refuse to open a file or to write to it for reasons of its own, and lets the next try
through: a disk comes with the tries that will be refused.

Main statements: `node?_put_self` and `node?_put_of_ne`, a place holds what was last put there,
whatever is put elsewhere; `node?_tried`, a try changes nothing.
-/

namespace SalesLedger.Storage

open Sql

abbrev Database := List Table

/-- The table with a name, in any case. -/
def Database.table? (db : Database) (name : String) : Option Table :=
  db.find? fun t => Text.equalAscii t.name name

/-- The database with a table in place of the one with its name, or added. -/
def Database.put (db : Database) (t : Table) : Database :=
  match db with
  | [] => [t]
  | u :: rest => if Text.equalAscii u.name t.name then t :: rest else u :: Database.put rest t

/-- What stands at a place. -/
inductive Node where
  | directory
  | database (db : Database)
  /-- A file that is no database. -/
  | foreign
  deriving DecidableEq

/-- A disk with a working directory. The top is always a directory. -/
structure Disk where
  working : Place
  nodes : List (Place × Node)
  /-- Whether each of the next tries to open or to write a file is refused; later ones are not. -/
  outages : List Bool := []
  deriving DecidableEq

namespace Disk

/-- A disk that is empty but for its working directory. -/
def empty (working : Place) : Disk :=
  { working
    nodes := (List.range working.length).reverse.map fun i => (working.take (i + 1), .directory) }

def node? (d : Disk) (p : Place) : Option Node :=
  if p = [] then some .directory else d.nodes.lookup p

/-- The disk with something at a place. -/
def put (d : Disk) (p : Place) (n : Node) : Disk :=
  { d with nodes := (p, n) :: d.nodes.filter fun e => e.1 ≠ p }

/-- The disk without what stands at a place. -/
def remove (d : Disk) (p : Place) : Disk :=
  { d with nodes := d.nodes.filter fun e => e.1 ≠ p }

/-- The disk without what stands at a place and below it. -/
def removeTree (d : Disk) (p : Place) : Disk :=
  { d with nodes := d.nodes.filter fun e => !p.isPrefixOf e.1 }

/-- Whether the next try is refused. -/
def refuses (d : Disk) : Bool :=
  d.outages.headD false

/-- The disk after one try. -/
def tried (d : Disk) : Disk :=
  { d with outages := d.outages.tail }

/-- The disk with other tries ahead. -/
def facing (d : Disk) (outages : List Bool) : Disk :=
  { d with outages }

/-- The place that a path means, whatever stands on the way. -/
def place (d : Disk) (path : String) : Place :=
  Path.place d.working path

/-- The database that stands at a place. -/
def database (d : Disk) (p : Place) : Except Fault Database :=
  match d.node? p with
  | some (.database db) => .ok db
  | _ => .error .notADatabase

/-! ## Laws -/

theorem lookup_filter_ne {p q : Place} (h : q ≠ p) (nodes : List (Place × Node)) :
    (nodes.filter fun e => e.1 ≠ p).lookup q = nodes.lookup q := by
  induction nodes with
  | nil => rfl
  | cons e rest ih =>
    obtain ⟨r, n⟩ := e
    by_cases hr : r = p
    · subst hr
      have hq : (q == r) = false := by simpa using h
      rw [List.filter_cons_of_neg (by simp), List.lookup_cons, hq]
      exact ih
    · have hkeep : (decide ((r, n).1 ≠ p)) = true := by simpa using hr
      rw [List.filter_cons, if_pos hkeep, List.lookup_cons, List.lookup_cons, ih]

theorem node?_put_self {p : Place} (h : p ≠ []) (d : Disk) (n : Node) :
    (d.put p n).node? p = some n := by
  rw [node?, if_neg h, put, List.lookup_cons_self]

theorem node?_put_of_ne {p q : Place} (h : q ≠ p) (d : Disk) (n : Node) :
    (d.put p n).node? q = d.node? q := by
  have hqp : (q == p) = false := by simpa using h
  rw [node?, node?, put, List.lookup_cons, hqp]
  simp only [lookup_filter_ne h]

@[simp] theorem node?_tried (d : Disk) (p : Place) : d.tried.node? p = d.node? p := rfl

@[simp] theorem node?_facing (d : Disk) (outages : List Bool) (p : Place) :
    (d.facing outages).node? p = d.node? p := rfl

@[simp] theorem database_facing (d : Disk) (outages : List Bool) (p : Place) :
    (d.facing outages).database p = d.database p := rfl

end Disk

end SalesLedger.Storage
