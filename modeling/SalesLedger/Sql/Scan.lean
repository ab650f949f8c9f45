import SalesLedger.Sql.Route

/-!
# Reading rows

In which order the rows of a table are read for a query, and which of them are taken. Rows come in
the table's order, or in that of a key. Ordering keeps the order of what it cannot tell apart.

Main statements: `order_perm`, ordering loses and adds nothing, `runs_flatten`, nor does grouping,
and `Select.mem_taken`, exactly the rows that meet all conditions are taken.
-/

namespace SalesLedger.Sql

/-! ## Order and groups -/

/-- Values in an order of their keys; equal keys keep their order. -/
def order {α : Type} (direction : SortOrder) (key : α → Cell) (xs : List α) : List α :=
  match direction with
  | .ascending => xs.mergeSort fun a b => (key a).le (key b)
  | .descending => xs.mergeSort fun a b => (key b).le (key a)

/-- Values that follow each other and have equal keys, together. -/
def runs {α : Type} (key : α → Cell) : List α → List (List α)
  | [] => []
  | x :: xs =>
    match runs key xs with
    | (y :: ys) :: rest =>
      if (key x).same (key y) then (x :: y :: ys) :: rest else [x] :: (y :: ys) :: rest
    | rest => [x] :: rest

namespace Select

/-! ## Reading by a route -/

/-- Whether rows are wanted in the direction of the order that the query asks for. Of groups only
those are whose order is asked for. -/
def isDirected (s : Select) (t : Table) : Bool :=
  s.orderBy.isSome && (s.groupBy.isNone || s.inGroupOrder t)

/-- The direction of a column by which a route gives rows, where it has not one value alone. -/
def directionOf? (s : Select) (t : Table) (i : Nat) (r : Route) : Option SortOrder :=
  if s.isFixed t i then none
  else
    match r.key? with
    | none => if t.numberIndex? = some i then some .ascending else none
    | some k =>
      ((k.parts.drop r.fixed).head?.filter fun p => t.follows i p).map KeyPart.direction

/-- Whether a route is read backwards. -/
def isBackwards (s : Select) (t : Table) (r : Route) : Bool :=
  s.isDirected t &&
    ((s.wish? t).bind fun i => s.directionOf? t i r).any fun direction => direction ≠ s.direction

/-- The rows in the order of a key. Rows that it does not tell apart come in the order of what they
are kept by, upwards. -/
def byKey (t : Table) (k : Key) : List Row :=
  let kept := if t.isKeyed && !k.isPrimary then (t.primary?.map Key.parts).getD [] else []
  t.rows.mergeSort (Table.keyLe (k.parts ++ kept.map fun p => { p with direction := .ascending }))

/-- The rows in the order of a route. -/
def along (t : Table) (r : Route) : List Row :=
  match r.key? with
  | none => t.rows
  | some k => byKey t k

/-- The rows in the order in which they are read: that of a route, which may be read backwards. -/
def read (s : Select) (t : Table) : List Row :=
  match s.route? t with
  | none => t.rows
  | some r => if s.isBackwards t r then (along t r).reverse else along t r

/-- The rows that meet all conditions. -/
def taken (s : Select) (t : Table) : List Row :=
  (s.read t).filter fun row => s.conditions.all (Condition.holds t row)

end Select

/-! ## Laws -/

theorem order_perm {α : Type} (d : SortOrder) (key : α → Cell) (xs : List α) :
    (order d key xs).Perm xs := by
  cases d <;> exact List.mergeSort_perm _ _

theorem Select.mem_along {t : Table} {r : Route} {row : Row} :
    row ∈ Select.along t r ↔ row ∈ t.rows := by
  unfold Select.along
  split
  · rfl
  · exact (List.mergeSort_perm _ _).mem_iff

theorem Select.mem_read {s : Select} {t : Table} {row : Row} : row ∈ s.read t ↔ row ∈ t.rows := by
  unfold Select.read
  split
  · rfl
  · split
    · rw [List.mem_reverse, mem_along]
    · exact mem_along

theorem Select.mem_taken {s : Select} {t : Table} {row : Row} :
    row ∈ s.taken t ↔ row ∈ t.rows ∧ ∀ c ∈ s.conditions, c.holds t row = true := by
  simp [taken, mem_read]

theorem runs_flatten {α : Type} (key : α → Cell) (xs : List α) : (runs key xs).flatten = xs := by
  induction xs with
  | nil => rfl
  | cons x xs ih =>
    rw [runs]
    split
    · rename_i y ys rest h
      rw [h] at ih
      split <;> simpa using ih
    · simpa using ih

end SalesLedger.Sql
