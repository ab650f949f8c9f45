import SalesLedger.Sql.Referent

/-!
# Routes

How a table may be read for a query: as it is kept, or by one of its keys, as a whole or between
bounds that conditions set. Of the routes the one is taken that is estimated to be the least effort,
with that of bringing the rows into an order that they do not come in.

Nothing is known of a table's rows beforehand: it is taken to have about a million. Estimates are
logarithms to base two, in tenths, and so is the least difference between two efforts.

Main statements: `joined_comm`, it does not matter which of two efforts comes first, `best?_mem`,
the best of some routes is one of them, and `insert_ne_nil`, so that there is one.
-/

namespace SalesLedger.Sql

/-! ## Estimates -/

namespace Width

/-- What a lesser effort adds to a greater one, by their difference. -/
def shares : List Int :=
  [10, 10, 9, 9, 8, 8, 7, 7, 7, 6, 6, 6, 5, 5, 5, 4, 4, 4, 4, 3, 3, 3, 3, 3, 3, 2, 2, 2, 2, 2, 2, 2]

/-- The logarithm of a sum, from the logarithms of its parts. -/
def joined (a b : Int) : Int :=
  let difference := (a - b).natAbs
  max a b + if difference ≤ 49 then shares.getD difference 1 else 0

end Width

namespace Route

open Width (joined)

/-- How many rows a table is taken to have. -/
def tableRows : Int := 200

/-- The effort of finding a place among the rows of a table, and among so many. -/
def search : Int := 43

/-- The effort of putting one of so many rows, or more, in its place. -/
def placing (rows : Int) : Int :=
  if rows ≤ 10 then 0 else Width.logarithm rows.toNat - 33

/-- The effort of visiting rows of the table, beside their number. -/
def visit : Int := 16

/-- How many rows have the same values in so many first columns of a key with so many. -/
def sharing (columns fixed : Nat) : Int :=
  if fixed = 0 then tableRows
  else if fixed = columns then 0
  else [33, 32, 30, 28, 26].getD (fixed - 1) 23

/-! ## Bounds -/

/-- How a condition bounds a column. -/
inductive Side where
  | equal
  | low
  | high
  deriving Repr, DecidableEq

/-- A bound that the condition at a place sets. -/
structure Bound where
  condition : Nat
  side : Side
  deriving Repr, DecidableEq

/-- The bounds that a condition sets on its column. -/
def sides : Condition → List Side
  | .equals _ _ => [.equal]
  | .atLeast _ _ => [.low]
  | .between _ _ _ => [.low, .high]
  | .yearIs _ _ => []

/-- How many of so many rows are between bounds: a quarter for each, and less where there are
two. -/
def between (rows : Int) (bounds : List Bound) : Int :=
  let open_ := bounds.filter fun b => b.side ≠ .equal
  match open_.length with
  | 0 => rows
  | 1 => min (rows - 1) (max 10 (rows - 20))
  | _ => min (rows - 2) (max 10 (rows - 60))

end Route

/-! ## Keys -/

namespace Table

/-- The room that the cells at some places need. -/
def room (t : Table) (places : List Nat) : Nat :=
  places.foldl (fun n i => n + ((t.columns[i]?.map Column.width).getD 0)) 0

/-- How much a row weighs, with its number where no column shows it. -/
def weight (t : Table) : Nat :=
  Width.estimate (t.room (List.range t.columns.length) + if t.numbering?.isNone then 1 else 0)

/-- The places of the cells that stand in a key: those of its columns, and what the rows are kept
by. -/
def keyPlaces (t : Table) (k : Key) : List Nat :=
  if !t.isKeyed then k.places
  else
    let more :=
      if k.isPrimary then List.range t.columns.length
      else
        (((t.primary?.map Key.parts).getD []).filter fun p =>
          !k.parts.any fun q => q.place = p.place && q.collation = p.collation).map KeyPart.place
    k.places ++ if k.isPrimary then more.filter fun i => !k.places.contains i else more

/-- How much a key weighs, with the number of the row where the rows have one. -/
def keyWeight (t : Table) (k : Key) : Nat :=
  Width.estimate (t.room (t.keyPlaces k) + if t.isKeyed then 0 else 1)

/-- The effort of visiting a row of a key, beside that of finding it. -/
def keyVisit (t : Table) (k : Key) : Int :=
  1 + (15 * t.keyWeight k / t.weight : Nat)

/-- Whether a key is shorter than the rows. -/
def isShort (t : Table) (k : Key) : Bool :=
  t.keyWeight k < t.weight

/-- Whether the values of a column come in the order of a part of a key. -/
def follows (t : Table) (i : Nat) (p : KeyPart) : Bool :=
  p.place = i && (p.collation = t.collationAt i || t.numberIndex? = some i)

end Table

/-! ## Routes -/

/-- A way to read a table. -/
structure Route where
  /-- The key that is read; the rows as they are kept, where there is none. -/
  key? : Option Key := none
  bounds : List Route.Bound := []
  /-- Whether the key has all that is asked for. -/
  isCovering : Bool := false
  /-- Routes that come in different orders are not weighed against each other too early. -/
  lane : Nat := 0
  effort : Int
  /-- How many rows are read. -/
  rows : Int
  deriving DecidableEq

namespace Route

open Width (joined)

/-- How many columns have one value. -/
def fixed (r : Route) : Nat :=
  r.bounds.countP fun b => b.side = .equal

/-- Whether one route is no worse than another. -/
def covers (a b : Route) : Bool :=
  a.effort ≤ b.effort && a.rows ≤ b.rows

/-- Whether one route uses less of the conditions than another and is not much worse. -/
def isPartOf (a b : Route) : Bool :=
  a.bounds.length < b.bounds.length && !(b.effort < a.effort && b.rows < a.rows) &&
    a.bounds.all b.bounds.contains && !(a.isCovering && !b.isCovering)

/-- A route by a key is no more effort than one that uses less, and no less than one that uses
more. -/
def levelled (r : Route) (others : List Route) : Route :=
  if r.key?.isNone then r
  else
    (others.filter fun p => p.key?.isSome).foldl
      (fun r p =>
        if p.isPartOf r then
          { r with effort := min p.effort r.effort, rows := min (p.rows - 1) r.rows }
        else if r.isPartOf p then
          { r with effort := max p.effort r.effort, rows := max (p.rows + 1) r.rows }
        else r)
      r

/-- The routes of a list that a new one leaves standing. -/
def spared (r : Route) : List Route → List Route
  | [] => []
  | p :: ps =>
    if p.lane ≠ r.lane then p :: spared r ps
    else if p.covers r then p :: ps
    else if r.covers p then spared r ps
    else p :: spared r ps

/-- The routes with a new one, unless one of them is as good; it takes the place of the first that
is no better. -/
def insert (r : Route) : List Route → List Route
  | [] => [r]
  | p :: ps =>
    if p.lane ≠ r.lane then p :: insert r ps
    else if p.covers r then p :: ps
    else if r.covers p then r :: spared r ps
    else p :: insert r ps

/-- What a route is weighed by: its effort, then how many rows it reads, then what decides between
the rest. -/
structure Cost where
  effort : Int
  rows : Int
  rest : Int

/-- Whether one cost is less than another. -/
def Cost.less (a b : Cost) : Bool :=
  a.effort < b.effort ||
    (a.effort = b.effort && (a.rows < b.rows || (a.rows = b.rows && a.rest < b.rest)))

/-- The first of some routes that costs the least. -/
def best? (cost : Route → Cost) : List Route → Option Route
  | [] => none
  | r :: rs =>
    some (rs.foldl (fun best p => if (cost p).less (cost best) then p else best) r)

end Route

namespace Select

open Width (joined)
open Route (Bound Side)

/-! ## The routes of a query -/

/-- The places of the columns that a query names. -/
def columnsNamed (s : Select) (t : Table) : List Nat :=
  (((s.answerColumns t).flatMap fun o => o.selection.term.columns).map t.index? ++
    s.conditions.map (fun c => t.index? c.column) ++ s.placeNames t).filterMap id

/-- Whether the columns of a key are all that a query asks for. What is worked out may need every
column. -/
def isCovering (s : Select) (t : Table) (k : Key) : Bool :=
  (t.isKeyed && k.isPrimary) ||
    (s.columnsNamed t).all fun i =>
      t.numberIndex? = some i || (k.places.contains i && !(t.columns[i]?.any Column.isComputed))

/-- The bounds on a column, those first that are conditions by themselves. -/
def boundsOn (s : Select) (t : Table) (i : Nat) : List Bound :=
  let found := s.conditions.zipIdx.filter fun c => t.index? c.1.column = some i
  let bounds := found.map fun c => (Route.sides c.1).map fun side => (⟨c.2, side⟩ : Bound)
  let (alone, paired) := bounds.partition fun sides => sides.length = 1
  (alone ++ paired).flatten

/-- The bounds that may be set on the columns of a key in turn, behind some others. A column that
has one value leads to the next one. -/
def boundLists (s : Select) (t : Table) : List KeyPart → List Bound → List (List Bound)
  | [], _ => []
  | p :: ps, taken =>
    if t.follows p.place p then
      (s.boundsOn t p.place).flatMap fun b =>
        let next := taken ++ [b]
        match b.side with
        | .equal => next :: boundLists s t ps next
        | .low =>
          next :: ((s.boundsOn t p.place).filter fun c => c.side = .high).map fun c => next ++ [c]
        | .high => [next]
    else []

/-- How many of so many rows meet the conditions beside some bounds: hardly fewer, but for an
equality. -/
def meeting (s : Select) (t : Table) (bounds : List Bound) (rows : Int) : Int :=
  let others := s.conditions.zipIdx.filter fun c =>
    (t.index? c.1.column).isSome && !bounds.any fun b => b.condition = c.2
  min (rows - others.length)
    (if others.any fun c => c.1.isEquality then Route.tableRows - 20 else Route.tableRows)

/-- The routes that read the rows as they are kept, by their numbers. -/
def tableRoutes (s : Select) (t : Table) : List Route :=
  let lane := if (s.wish? t).isSome ∧ s.wish? t = t.numberIndex? then 1 else 0
  let all : Route :=
    { lane, effort := Route.tableRows + Route.visit, rows := s.meeting t [] Route.tableRows }
  let parts := t.numberIndex?.toList.map fun i => (⟨i, .binary, .ascending⟩ : KeyPart)
  all :: (s.boundLists t parts []).map fun bounds =>
    let rows := Route.between Route.tableRows bounds
    { bounds, lane, effort := joined Route.search (rows + Route.visit),
      rows := s.meeting t bounds rows }

/-- The effort of looking a row up in the table for every row of a key. Conditions that the key's
values decide spare some of it, up to the first that they do not. -/
def lookingUp (s : Select) (t : Table) (k : Key) : Int :=
  let decided (c : Condition) : Bool :=
    match t.index? c.column with
    | some i => (t.keyPlaces k).contains i || t.numberIndex? = some i
    | none => true
  let first := s.conditions.takeWhile decided
  let spared := first.map fun c => if c.isEquality && (t.index? c.column).isSome then 20 else 1
  let paired :=
    if first.length = s.conditions.length then
      s.conditions.flatMap fun c => if (Route.sides c).length = 2 then [1, 1] else []
    else []
  (spared ++ paired).foldl (· - ·) (Route.tableRows + Route.visit)

def keyRoutes (s : Select) (t : Table) (k : Key) (number : Nat) : List Route :=
  let isCovering := s.isCovering t k
  let helps := (s.wish? t).any fun i => t.numberIndex? = some i || k.places.contains i
  let lane := if helps then number else 0
  let scan := Route.tableRows + t.keyVisit k
  let all : Route :=
    { key? := some k, isCovering, lane
      effort := if isCovering then scan else joined scan (s.lookingUp t k)
      rows := s.meeting t [] Route.tableRows }
  (if helps || t.isKeyed || (isCovering && t.isShort k) then [all] else []) ++
    (s.boundLists t k.parts []).map fun bounds =>
      let fixed := bounds.countP fun b => b.side = .equal
      let rows := Route.between (Route.sharing k.parts.length fixed) bounds
      let found := joined Route.search (rows + t.keyVisit k)
      { key? := some k, bounds, isCovering, lane
        effort := if isCovering then found else joined found (rows + Route.visit)
        rows := s.meeting t bounds rows }

/-- All routes in the order in which they are looked at. -/
def allRoutes (s : Select) (t : Table) : List Route :=
  (if t.isKeyed then [] else s.tableRoutes t) ++
    t.orderedKeys.zipIdx.flatMap fun k => s.keyRoutes t k.1 (k.2 + if t.isKeyed then 1 else 2)

/-- The routes that no other makes needless. -/
def routes (s : Select) (t : Table) : List Route :=
  (s.allRoutes t).foldl (fun rs r => Route.insert (r.levelled rs) rs) []

/-! ## Order -/

/-- Whether a condition asks for one value of a column. -/
def isFixed (s : Select) (t : Table) (i : Nat) : Bool :=
  s.conditions.any fun c => c.isEquality && t.index? c.column = some i

/-- Whether a route gives the rows in the order of a column, or in groups of its values. -/
def ordersBy (s : Select) (t : Table) (i : Nat) (r : Route) : Bool :=
  s.isFixed t i ||
    match r.key? with
    | none => t.numberIndex? = some i
    | some k =>
      match k.parts.drop r.fixed with
      | p :: _ => t.follows i p
      | [] => true

/-- Whether a route gives the rows in the order that is wanted. -/
def isOrdered (s : Select) (t : Table) (r : Route) : Bool :=
  match s.wish? t with
  | some i => s.ordersBy t i r
  | none => !s.wantsOrder

/-- The effort of bringing so many rows into an order. -/
def ordering (s : Select) (t : Table) (rows : Int) : Int :=
  let width := Width.logarithm (((s.answerColumns t).length + 59) / 30)
  rows + width + Route.placing rows

/-- The cost of a route where the order does not matter. -/
def plainCost (r : Route) : Route.Cost :=
  let effort := joined r.effort 0
  ⟨effort, r.rows, effort⟩

/-- The cost of a route where the order does, and about so many rows are wanted. -/
def orderedCost (s : Select) (t : Table) (wanted : Int) (r : Route) : Route.Cost :=
  let effort := joined r.effort 0
  if s.isOrdered t r then ⟨effort, r.rows, effort - 2⟩
  else ⟨joined effort (s.ordering t wanted) + 3, r.rows, effort⟩

def route? (s : Select) (t : Table) : Option Route :=
  let routes := s.routes t
  match Route.best? plainCost routes with
  | some r =>
    if s.wantsOrder then
      Route.best? (s.orderedCost t (if r.rows < 0 then 1 else r.rows + 1)) routes
    else some r
  | none => none

end Select

/-! ## Laws -/

theorem Width.joined_comm (a b : Int) : Width.joined a b = Width.joined b a := by
  have h : (a - b).natAbs = (b - a).natAbs := by omega
  simp only [Width.joined, h, Int.max_comm a b]

namespace Route

theorem insert_ne_nil (r : Route) (rs : List Route) : insert r rs ≠ [] := by
  cases rs with
  | nil => simp [insert]
  | cons p ps =>
    rw [insert]
    split
    · simp
    · split
      · simp
      · split <;> simp

theorem best?_mem {cost : Route → Cost} {rs : List Route} {r : Route} (h : best? cost rs = some r) :
    r ∈ rs := by
  cases rs with
  | nil => cases h
  | cons p ps =>
    have hmem : ∀ (ps : List Route) (b : Route),
        ps.foldl (fun best p => if (cost p).less (cost best) then p else best) b ∈ b :: ps := by
      intro ps
      induction ps with
      | nil => intro b; simp
      | cons q qs ih =>
        intro b
        rw [List.foldl_cons]
        rcases List.mem_cons.1 (ih (if (cost q).less (cost b) then q else b)) with hbest | hlater
        · rw [hbest]
          split
          · exact List.mem_cons_of_mem _ List.mem_cons_self
          · exact List.mem_cons_self
        · exact List.mem_cons_of_mem _ (List.mem_cons_of_mem _ hlater)
    cases h
    exact hmem ps p

end Route

end SalesLedger.Sql
