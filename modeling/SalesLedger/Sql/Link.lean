import SalesLedger.Sql.Candidate

/-!
# Links between rows

Where the rows of a table refer to, once the columns there are found. Only the table itself can be
referred to, as there is no other beside it. While a statement runs, references may lack what they
refer to; these are counted, those apart that need not hold before the transaction ends.

Main statements: `counter_count`, a count is what it was and what is added, and `links_nil`, a table
without references has no links.
-/

namespace SalesLedger.Sql

/-- A column that refers to another, and how texts compare there. -/
structure LinkPart where
  place : Nat
  target : Nat
  collation : Collation
  deriving Repr, DecidableEq

/-- A reference whose columns are found. -/
structure Link where
  parts : List LinkPart
  /-- Whether it is the numbers of the rows that it refers to. -/
  isToNumber : Bool
  onRemoval : Removal
  isDeferred : Bool
  deriving Repr, DecidableEq

/-- The rows of a table while a statement runs. -/
structure Progress where
  rows : List Row
  /-- How many references lack what they refer to: those that have to hold when the statement ends,
  and those that have to when the transaction does. -/
  missing : Int := 0
  missingLater : Int := 0
  /-- How many rows changed beside those that the statement names. -/
  changes : Int := 0
  deriving DecidableEq

namespace Progress

/-- How many references lack what they refer to, of those that are counted with a link. -/
def counter (p : Progress) (l : Link) : Int :=
  if l.isDeferred then p.missingLater else p.missing

/-- So many more references of a link that lack what they refer to. -/
def count (p : Progress) (l : Link) (n : Int) : Progress :=
  if l.isDeferred then { p with missingLater := p.missingLater + n }
  else { p with missing := p.missing + n }

end Progress

namespace Table

/-! ## Finding columns -/

/-- Whether a key has the columns that a reference names; it has to compare their texts as the
columns do. -/
def fits (t : Table) (r : Reference) (k : Key) : Bool :=
  k.parts.length = r.places.length &&
    if r.targets.isEmpty then k.isPrimary
    else
      k.parts.all fun p =>
        p.collation = t.collationAt p.place && r.targets.any (Text.equalAscii (t.nameAt p.place))

/-- The columns that refer to those of a key, in the key's order. -/
def pairs (t : Table) (r : Reference) (k : Key) : List LinkPart :=
  if r.targets.isEmpty then
    (k.parts.zip r.places).map fun (p, place) => ⟨place, p.place, p.collation⟩
  else
    k.parts.filterMap fun p =>
      ((r.targets.zip r.places).find? fun q => Text.equalAscii q.1 (t.nameAt p.place)).map fun q =>
        ⟨q.2, p.place, p.collation⟩

/-- The column of numbers that a reference is to, if it is. -/
def numberPart? (t : Table) (r : Reference) : Option LinkPart :=
  match r.places, t.numberIndex? with
  | [place], some n =>
    if r.targets.all (Text.equalAscii (t.nameAt n)) then some ⟨place, n, .binary⟩ else none
  | _, _ => none

def link (t : Table) (r : Reference) : Except Fault Link :=
  if Text.equalAscii r.table t.name then
    match t.numberPart? r, t.orderedKeys.find? (t.fits r) with
    | some p, _ => .ok ⟨[p], true, r.onRemoval, r.isDeferred⟩
    | none, some k => .ok ⟨t.pairs r k, false, r.onRemoval, r.isDeferred⟩
    | none, none => .error (.keyMismatch t.name r.table)
  else .error (.noSuchTable ("main." ++ r.table))

/-- The links of the table, the last one first. -/
def links (t : Table) : Except Fault (List Link) :=
  t.references.reverse.mapM t.link

/-! ## Following links -/

/-- Whether a row refers to nothing. -/
def isLoose (l : Link) (row : Row) : Bool :=
  l.parts.any fun p => row.cell p.place = .null

/-- Whether one of some rows is the one that a row refers to. -/
def isFound (t : Table) (l : Link) (rows : List Row) (row : Row) : Bool :=
  if l.isToNumber then
    l.parts.all fun p =>
      match Affinity.integer.store (row.cell p.place) with
      | .integer n => rows.any fun r => r.number = n
      | _ => false
  else
    rows.any fun r =>
      l.parts.all fun p =>
        let x := (t.affinityAt p.target).store (row.cell p.place)
        (p.collation.cell x).same (p.collation.cell (r.cell p.target))

/-- Whether a row refers to itself; its values are compared as they are. -/
def isOwn (l : Link) (row : Row) : Bool :=
  l.parts.all fun p =>
    if l.isToNumber then Affinity.integer.store (row.cell p.place) = .integer row.number
    else row.cell p.target ≠ .null && (row.cell p.place).same (row.cell p.target)

/-- Whether one row refers to another. -/
def refers (t : Table) (l : Link) (other row : Row) : Bool :=
  l.parts.all fun p =>
    let affinity := Affinity.between (some (t.affinityAt p.target)) (some (t.affinityAt p.place))
    compare affinity (t.collationAt p.target) .equal (row.cell p.target) (other.cell p.place) =
      some true

/-- How many of some rows refer to a row, other than the row itself. -/
def countOthers (t : Table) (l : Link) (rows : List Row) (row : Row) : Int :=
  (rows.countP fun r => r.number ≠ row.number && t.refers l r row : Nat)

/-- A row's own reference is gone: if what it referred to was missing, one less is. -/
def loosen (t : Table) (row : Row) (p : Progress) (l : Link) : Progress :=
  if p.counter l = 0 ∨ isLoose l row ∨ t.isFound l p.rows row then p else p.count l (-1)

/-- A row's own reference is there: if what it refers to is missing, one more is. -/
def fasten (t : Table) (row : Row) (rows : List Row) (p : Progress) (l : Link) : Progress :=
  if isLoose l row || isOwn l row || t.isFound l rows row then p else p.count l 1

/-- A row is gone: those that refer to it lack it. -/
def forsake (t : Table) (row : Row) (p : Progress) (l : Link) : Progress :=
  p.count l (t.countOthers l p.rows row)

/-- A row is there: those that refer to it lack it no longer. -/
def adopt (t : Table) (row : Row) (p : Progress) (l : Link) : Progress :=
  if p.counter l = 0 then p else p.count l (-(t.countOthers l p.rows row))

end Table

/-! ## Laws -/

theorem Progress.counter_count (p : Progress) (l : Link) (n : Int) :
    (p.count l n).counter l = p.counter l + n := by
  unfold counter count
  split <;> simp_all

theorem Progress.rows_count (p : Progress) (l : Link) (n : Int) :
    (p.count l n).rows = p.rows := by
  unfold count
  split <;> rfl

theorem Table.links_nil {t : Table} (h : t.references = []) : t.links = .ok [] := by
  rw [links, h]
  rfl

end SalesLedger.Sql
