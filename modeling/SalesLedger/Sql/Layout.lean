import SalesLedger.Parameters.Basic
import SalesLedger.Sql.Column

/-!
# Layouts

What a table is made of: its columns, the column that numbers its rows, the keys in which no values
come twice, the conditions that its rows meet, and where they refer to.

Main statements: `index?_lt`, a name that is found has a column, and `orderedKeys_perm`, the order
in which keys are looked at leaves none out.
-/

namespace SalesLedger.Sql

/-- A column in a key: its place, how its texts compare there, and the direction in which the key is
kept. -/
structure KeyPart where
  place : Nat
  collation : Collation
  direction : SortOrder := .ascending
  deriving Repr, DecidableEq

/-- Columns in which no values come twice. -/
structure Key where
  parts : List KeyPart
  isPrimary : Bool := false
  /-- What becomes of a row whose values are there, where that is said. -/
  resolution? : Option Resolution := none
  deriving Repr, DecidableEq

namespace Key

/-- What becomes of a row whose values are there. -/
def resolution (k : Key) : Resolution :=
  k.resolution?.getD .abort

/-- Whether others give way to a row. -/
def replaces (k : Key) : Bool :=
  k.resolution = .replace

def places (k : Key) : List Nat :=
  k.parts.map KeyPart.place

/-- Whether two keys are of the same columns, compared alike. -/
def sameColumns (a b : Key) : Bool :=
  a.places = b.places && a.parts.map KeyPart.collation = b.parts.map KeyPart.collation

end Key

/-- The column that numbers the rows. -/
structure Numbering where
  place : Nat
  /-- Whether no number is given twice, even when its row is gone. -/
  isCounter : Bool := false
  /-- What becomes of a row whose number is there. -/
  resolution : Resolution := .abort
  /-- The direction in which a key of the column is kept. -/
  direction : SortOrder := .ascending
  deriving Repr, DecidableEq

/-- A condition that is not false of any row. -/
structure Check where
  name : String
  condition : String
  deriving Repr, DecidableEq

/-- What becomes of the rows that refer to a row when it goes. -/
inductive Removal where
  | nothing
  /-- It does not go. -/
  | restrict
  /-- They refer to nothing. -/
  | clear
  /-- They refer to what rows refer to that say nothing else. -/
  | reset
  /-- They go with it. -/
  | cascade
  deriving Repr, DecidableEq

/-- Columns whose values are also in a table. -/
structure Reference where
  places : List Nat
  table : String
  /-- The columns there; those of the primary key, where none is named. -/
  targets : List String
  onRemoval : Removal := .nothing
  /-- Whether it need not hold before the transaction ends. -/
  isDeferred : Bool := false
  deriving Repr, DecidableEq

/-- What a table is made of. -/
structure Layout where
  columns : List Column
  numbering? : Option Numbering := none
  /-- The keys in the order of their declaration. -/
  keys : List Key := []
  checks : List Check := []
  /-- The references in the order of their declaration. -/
  references : List Reference := []
  /-- Whether the columns take only cells of their types. -/
  isStrict : Bool := false
  /-- Whether the rows are kept by the primary key and have no numbers. -/
  isKeyed : Bool := false
  deriving DecidableEq

namespace Layout

/-- The place of the column with a name, in any case of the letters A to Z. -/
def index? (l : Layout) (name : String) : Option Nat :=
  l.columns.findIdx? fun c => Text.equalAscii c.name name

/-- The place of the column that numbers the rows. -/
def numberIndex? (l : Layout) : Option Nat :=
  l.numbering?.map Numbering.place

/-- The names of the columns that are given and not worked out. -/
def givenColumns (l : Layout) : List String :=
  (l.columns.filter fun c => !c.isComputed).map Column.name

/-- How the texts of the column at a place compare. -/
def collationAt (l : Layout) (i : Nat) : Collation :=
  (l.columns[i]?.map Column.collation).getD .binary

/-- What the cells of the column at a place are turned into. -/
def affinityAt (l : Layout) (i : Nat) : Affinity :=
  (l.columns[i]?.map Column.affinity).getD .blob

/-- The name of the column at a place. -/
def nameAt (l : Layout) (i : Nat) : String :=
  (l.columns[i]?.map Column.name).getD ""

/-- The keys in the order in which they are looked at: the last one first, and those at the end
that others give way to. -/
def orderedKeys (l : Layout) : List Key :=
  let (late, early) := l.keys.reverse.partition Key.replaces
  early ++ late

/-- The key that the rows are kept by. -/
def primary? (l : Layout) : Option Key :=
  l.keys.find? Key.isPrimary

/-! ## Laws -/

theorem index?_lt {l : Layout} {name : String} {i : Nat} (h : l.index? name = some i) :
    i < l.columns.length := by
  rw [index?, List.findIdx?_eq_some_iff_getElem] at h
  exact h.1

theorem orderedKeys_perm (l : Layout) : l.orderedKeys.Perm l.keys := by
  have h := List.filter_append_perm Key.replaces l.keys.reverse
  rw [orderedKeys, List.partition_eq_filter_filter]
  exact (List.perm_append_comm.trans h).trans (List.reverse_perm _)

end Layout

end SalesLedger.Sql
