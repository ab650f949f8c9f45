import SalesLedger.Sql.Link

/-!
# Removing rows

What happens to the rows that refer to a row when it gives way: they keep it from going, go with it,
or refer to something else from then on.

Main statement: `remove_of_unlinked`, where nothing refers to anything, a row goes alone.
-/

namespace SalesLedger.Sql.Table

/-- The table in which a row that breaks a rule is always refused. -/
def aborting (t : Table) : Table :=
  let aborting (c : Column) : Column := { c with required? := c.required?.map fun _ => .abort }
  { t with columns := t.columns.map aborting }

/-- The values that a row refers by when what it referred to is gone. -/
def substitutes (t : Table) (session : Session) (l : Link) :
    Except Fault (List (Nat × Value)) :=
  l.parts.mapM fun p =>
    match l.onRemoval, t.columns[p.place]? with
    | .reset, some c =>
      match c.fallback session with
      | .ok v => .ok (p.place, v)
      | .error f => .error (.noValue f)
    | _, _ => .ok (p.place, .null)

/-- The number of a row with other values. -/
def renumbered (t : Table) (c : Candidate) : Except Fault Candidate :=
  match t.numberIndex? with
  | none => .ok c
  | some i =>
    match Affinity.integer.store (c.value i).cell with
    | .integer n => .ok { c with number := n }
    | _ => .error .datatypeMismatch

/-- A row with other values that keeps the rules of the table. -/
def revised (t : Table) (session : Session) (values : List (Nat × Value)) (row : Row) :
    Except Fault Row := do
  let c ← t.renumbered (values.foldl (fun c v => c.set v.1 v.2) (Candidate.ofRow row))
  match t.aborting.ready session c with
  | .ok c => pure c.row
  | .error (.fault f) => throw f
  | .error .skipped => pure row

/-- The columns of the first key that a changed row shares with another row. -/
def clash? (t : Table) (old new : Row) (others : List Row) : Option (List String) :=
  if old.number ≠ new.number ∧ others.any (fun r => r.number = new.number) then
    t.numberIndex?.map fun i => [t.nameAt i]
  else
    (t.orderedKeys.find? fun k =>
      keyCells k old ≠ keyCells k new && others.any (meets k new)).map fun k =>
        k.places.map t.nameAt

/-- Whether what others refer to by a link is changed in a row. -/
def isMoved (l : Link) (old new : Row) : Bool :=
  l.parts.any fun p => old.cell p.target ≠ new.cell p.target

/-- Changes the values by which a row refers to others. What refers to nothing on purpose is not
looked for. -/
def change (t : Table) (session : Session) (links : List Link) (own : Link) (row : Row)
    (p : Progress) : Except Fault Progress := do
  let new ← t.revised session (← t.substitutes session own) row
  let others := p.rows.filter fun r => r.number ≠ row.number
  match t.clash? row new others with
  | some columns => throw (.notUnique t.name columns)
  | none =>
    let moved := links.filter fun l => isMoved l row new
    let p := links.foldl (t.loosen row) p
    let p := moved.foldl (t.forsake row) p
    let looked := if own.onRemoval = .clear then links.erase own else links
    let p := looked.foldl (t.fasten new (new :: others)) p
    let p := moved.foldl (t.adopt new) { p with rows := others }
    pure { p with rows := t.place new others, changes := p.changes + 1 }

/-- What a link does with the rows that refer to a row that is gone, where a way to remove rows is
given. -/
def follow (t : Table) (session : Session) (links : List Link)
    (remove : Row → Progress → Except Fault Progress) (row : Row) (p : Progress) (l : Link) :
    Except Fault Progress :=
  let others := p.rows.filter fun r => t.refers l r row
  match l.onRemoval with
  | .nothing => .ok p
  | .restrict => if others.isEmpty then .ok p else .error .keyFailed
  | .cascade =>
    others.foldlM
      (fun p r => if p.rows.contains r then
          (remove r p).map fun p => { p with changes := p.changes + 1 }
        else .ok p) p
  | .clear | .reset => others.foldlM (fun p r => t.change session links l r p) p

/-- The rows without one, and what comes of that, within so many steps from row to row. -/
def remove (t : Table) (session : Session) (links : List Link) :
    Nat → Row → Progress → Except Fault Progress
  | 0, _, p => .ok p
  | steps + 1, row, p =>
    let p := links.foldl (t.loosen row) p
    let p := links.foldl (t.forsake row) p
    let p := { p with rows := p.rows.filter fun r => r.number ≠ row.number }
    links.foldlM (t.follow session links (remove t session links steps) row) p

/-! ## Laws -/

theorem remove_of_unlinked (t : Table) (session : Session) (steps : Nat) (row : Row)
    (p : Progress) :
    t.remove session [] (steps + 1) row p =
      .ok { p with rows := p.rows.filter fun r => r.number ≠ row.number } := rfl

end SalesLedger.Sql.Table
