import SalesLedger.Sql.Transaction

/-!
# Inserting into plain tables

A plain table has no keys, no references, no conditions and no columns that are worked out or have
to have a value; its rows may be numbered by a column. `table_of_insert`: a row goes in behind the
others, with its values as the columns store them, or the numbers have run out
(`insert_of_nextNumber`).

* `ready_of_isPlain`: nothing is checked of a row but how its values are stored.
* `entered_of_isPlain`: nothing stands in the way of a row that is numbered by the table.
* `place_of_last`: a row with the greatest number goes to the end.
-/

namespace SalesLedger.Sql

namespace Table

/-- A table that asks nothing of its rows. -/
structure IsPlain (t : Table) : Prop where
  computed : ∀ c ∈ t.columns, c.computed? = none
  required : ∀ c ∈ t.columns, c.required? = none
  keys : t.keys = []
  checks : t.checks = []
  references : t.references = []
  isStrict : t.isStrict = false
  isKeyed : t.isKeyed = false

variable {t : Table}

theorem counting_rows (t : Table) (number : Int) : (t.counting number).rows = t.rows := by
  unfold counting
  split <;> rfl

theorem counting_layout (t : Table) (number : Int) :
    (t.counting number).toLayout = t.toLayout := by
  unfold counting
  split <;> rfl

theorem IsPlain.of_layout {u : Table} (h : t.IsPlain) (hu : u.toLayout = t.toLayout) :
    u.IsPlain := by
  obtain ⟨h1, h2, h3, h4, h5, h6, h7⟩ := h
  exact ⟨hu ▸ h1, hu ▸ h2, hu ▸ h3, hu ▸ h4, hu ▸ h5, hu ▸ h6, hu ▸ h7⟩

/-! ## Values -/

theorem mem_columns_of_mem_placed {p : Column × Nat} (h : p ∈ t.placed) : p.1 ∈ t.columns :=
  List.fst_mem_of_mem_zipIdx h

theorem IsPlain.formulas (h : t.IsPlain) : t.formulas = [] := by
  unfold Table.formulas
  rw [List.filterMap_eq_nil_iff]
  rintro ⟨column, i⟩ hp
  dsimp only
  rw [h.computed column (mem_columns_of_mem_placed hp)]
  rfl

theorem IsPlain.worked (h : t.IsPlain) (session : Session) (c : Candidate) :
    t.worked session c = .ok (t.stored c) := by
  rw [Table.worked, h.formulas, List.isEmpty_nil, if_pos rfl]
  simp only [workedOut_of_plain h.formulas]
  rfl

theorem mapM_pure_snd {α β ε : Type} {f : α × β → Except ε β} {xs : List (α × β)}
    (h : ∀ x ∈ xs, f x = .ok x.2) : xs.mapM f = .ok (xs.map Prod.snd) := by
  induction xs with
  | nil => rfl
  | cons x xs ih =>
    rw [List.mapM_cons, h x (by simp), ih fun y hy => h y (List.mem_cons_of_mem _ hy)]
    rfl

theorem IsPlain.filled (h : t.IsPlain) (session : Session) {c : Candidate}
    (hlen : c.values.length = t.columns.length) : t.filled session c = .ok c := by
  have hvalues : (t.placed.zip c.values).mapM (fun (x : (Column × Nat) × Value) =>
      if x.1.1.isComputed || t.numberIndex? = some x.1.2 then (.ok x.2 : Except Refusal Value)
      else t.filledValue session x.1.1 x.2) = .ok c.values := by
    rw [mapM_pure_snd]
    · rw [List.map_snd_zip (Nat.le_of_eq (by rw [placed, List.length_zipIdx, hlen]))]
    · rintro ⟨⟨column, i⟩, v⟩ hv
      have hcolumn := mem_columns_of_mem_placed (List.of_mem_zip hv).1
      show (if _ then _ else _) = _
      split
      · rfl
      · unfold filledValue
        rw [h.required column hcolumn, ite_self]
  unfold Table.filled
  exact congrArg (fun r : Except Refusal (List Value) => r.bind fun values =>
    .ok { c with values := values }) hvalues

theorem IsPlain.stillMissing? (h : t.IsPlain) (c : Candidate) : t.stillMissing? c = none := by
  unfold Table.stillMissing?
  rw [List.findSome?_eq_none_iff]
  rintro ⟨⟨column, i⟩, v⟩ hv
  have hcolumn := mem_columns_of_mem_placed (List.of_mem_zip hv).1
  simp only [h.required column hcolumn, ite_self]

theorem length_stored {c : Candidate} (hlen : c.values.length = t.columns.length) :
    (t.stored c).values.length = t.columns.length := by
  simp [stored, hlen]

/-- **Nothing is checked of a row** but how its values are stored, which is done twice. -/
theorem ready_of_isPlain (h : t.IsPlain) (session : Session) {c : Candidate}
    (hlen : c.values.length = t.columns.length) :
    t.ready session c = .ok (t.stored (t.stored c)) := by
  have hfault : t.typeFault? isKept (t.stored (t.stored c)) = none := by
    unfold typeFault?
    rw [h.isStrict]
    exact if_neg Bool.false_ne_true
  have hchecks : t.failing? session (t.stored (t.stored c)) t.checks = .ok none := by
    rw [h.checks, failing?]
  unfold ready
  simp only [h.worked, h.filled session (length_stored hlen), h.stillMissing?, hfault, hchecks,
    bind, Except.bind]
  rfl

/-! ## Rows -/

theorem place_of_last (h : t.isKeyed = false) {row : Row} {rows : List Row}
    (hlast : ∀ r ∈ rows, r.number < row.number) : t.place row rows = rows ++ [row] := by
  induction rows with
  | nil => rfl
  | cons r rest ih =>
    have hr : t.precedes r row = true := by
      simpa [precedes, h] using hlast r (by simp)
    rw [place, if_pos hr, ih fun r hr => hlast r (List.mem_cons_of_mem _ hr), List.cons_append]

theorem IsPlain.barriers (h : t.IsPlain) (row : Row) : t.barriers false row = [] := by
  have hkeys : t.orderedKeys = [] := by
    simp [Layout.orderedKeys, h.keys]
  simp [Table.barriers, hkeys]

/-- **Nothing stands in the way of a row** that has its number from the table. -/
theorem entered_of_isPlain (h : t.IsPlain) (session : Session) {c : Candidate}
    (hlen : c.values.length = t.columns.length) {rows : List Row}
    (hlast : ∀ r ∈ rows, r.number < c.number) (missing : Int) :
    t.entered session [] false c { rows, missingLater := missing } =
      .ok { rows := rows ++ [(t.stored (t.stored c)).row], missingLater := missing } := by
  have hplace : t.place (t.stored (t.stored c)).row rows =
      rows ++ [(t.stored (t.stored c)).row] := place_of_last h.isKeyed hlast
  have hsettled : ∀ p, t.settled session [] [] p = .ok p := fun p =>
    settled_of_free fun b hb => absurd hb List.not_mem_nil
  unfold entered
  simp only [ready_of_isPlain h session hlen, h.barriers, bind, Except.bind, hsettled, followed,
    List.reverse_nil, List.find?_nil, List.foldl_nil, hplace]
  rfl

/-- The table is plain, and a row that is given gives values for its columns only and none for that
of the numbers. These are its values under each number. -/
structure Takes (t : Table) (session : Session) (given : List (String × Cell))
    (values : Int → List Value) : Prop where
  plain : t.IsPlain
  names : ∀ g ∈ given, t.nameFault? g.1 = none
  number : ∀ g ∈ given, t.index? g.1 ≠ t.numberIndex?
  numbered : (t.valuesOf session given).bind t.numbered =
    t.nextNumber.map fun n => ⟨n, values n⟩
  length : ∀ n, (values n).length = t.columns.length
  last : ∀ n, t.nextNumber = .ok n → ∀ r ∈ t.rows, r.number < n

end Table

namespace Transaction

/-- **A row of a plain table goes in behind the others.** -/
theorem enter_of_isPlain {x : Transaction} (h : x.table.IsPlain) {c : Candidate}
    (hlen : c.values.length = x.table.columns.length)
    (hlast : ∀ r ∈ x.table.rows, r.number < c.number) :
    ∃ session, x.enter [] false c = .ok
      { table := { x.table.counting c.number with
          rows := x.table.rows ++ [(x.table.stored (x.table.stored c)).row] }
        session
        missing := x.missing } := by
  have hlayout := x.table.counting_layout c.number
  have hplain : (x.table.counting c.number).IsPlain := h.of_layout hlayout
  have hcolumns : (x.table.counting c.number).columns = x.table.columns :=
    congrArg Layout.columns hlayout
  have hstored : ∀ c', (x.table.counting c.number).stored c' = x.table.stored c' := by
    intro c'
    rw [Table.stored, Table.stored, hcolumns]
  have hentered := Table.entered_of_isPlain hplain x.session (c := c) (by rw [hcolumns, hlen])
    hlast x.missing
  rw [hstored, hstored] at hentered
  refine ⟨sessionAfter x.session (x.table.counting c.number) c.number 0, ?_⟩
  unfold enter
  simp only [Table.counting_rows, hentered]

/-- What is inserted into a plain table goes in under the next number. -/
theorem insert_of_takes {x : Transaction} {given : List (String × Cell)} {values : Int → List Value}
    (h : x.table.Takes x.session given values) :
    x.insert given = x.table.nextNumber.bind fun n => x.enter [] false ⟨n, values n⟩ := by
  have hfault : given.findSome? (fun g => x.table.nameFault? g.1) = none :=
    List.findSome?_eq_none_iff.2 h.names
  have hgiven : (given.any fun g => x.table.index? g.1 = x.table.numberIndex?) = false := by
    rw [List.any_eq_false]
    intro g hg
    simpa using h.number g hg
  have hentered : x.insert given = ((x.table.valuesOf x.session given).bind x.table.numbered).bind
      fun c => x.enter [] false c := by
    unfold insert
    simp only [hfault, Table.links_nil h.plain.references, hgiven, bind, Except.bind]
    cases x.table.valuesOf x.session given with
    | error f => rfl
    | ok vs => rfl
  rw [hentered, h.numbered]
  cases x.table.nextNumber with
  | error f => rfl
  | ok n => rfl

/-- **A plain table takes a row** as long as there are numbers. -/
theorem insert_of_nextNumber {x : Transaction} {given : List (String × Cell)}
    {values : Int → List Value} (h : x.table.Takes x.session given values) {n : Int}
    (hn : x.table.nextNumber = .ok n) :
    ∃ session, x.insert given = .ok
      { table := { x.table.counting n with
          rows := x.table.rows ++ [(x.table.stored (x.table.stored ⟨n, values n⟩)).row] }
        session
        missing := x.missing } := by
  rw [insert_of_takes h, hn]
  exact enter_of_isPlain h.plain (h.length n) (h.last n hn)

/-- **What is inserted into a plain table is appended**, under the next number. -/
theorem table_of_insert {x y : Transaction} {given : List (String × Cell)}
    {values : Int → List Value} (h : x.table.Takes x.session given values)
    (hy : x.insert given = .ok y) :
    ∃ n, x.table.nextNumber = .ok n ∧ y.missing = x.missing ∧
      y.table = { x.table.counting n with
        rows := x.table.rows ++ [(x.table.stored (x.table.stored ⟨n, values n⟩)).row] } := by
  cases hnext : x.table.nextNumber with
  | error f =>
    rw [insert_of_takes h, hnext] at hy
    cases hy
  | ok n =>
    obtain ⟨session, hinsert⟩ := insert_of_nextNumber h hnext
    obtain rfl := Except.ok.inj (hinsert.symm.trans hy)
    exact ⟨n, rfl, rfl, rfl⟩

end Transaction

end SalesLedger.Sql
