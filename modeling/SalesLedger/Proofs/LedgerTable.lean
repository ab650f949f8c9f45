import Mathlib.Data.List.Induction
import SalesLedger.Ledger
import SalesLedger.Proofs.PlainTable

/-!
# Tables of sales

The two tables that the program makes, as they are after it has written to them: a tenant's ledger
of some sales (`Ledger.ofSales`) and the master ledger of some entries (`Ledger.ofEntries`). Rows
are numbered from one on, and every sale has one row, with the cells that its columns store.

* `insertAll_ofSales`, `insertAll_ofEntries`: what is inserted without a fault is appended, and
  nothing is missing when the transaction ends.
* `insertAll_ofEntries_of_room`: the master ledger takes a batch as long as it has numbers.
* `cells_of_entry`: without its number and its tenant, a row of the master ledger is that of the
  tenant's ledger.
-/

namespace SalesLedger

open Sql

/-- The cells that a ledger stores for a sale. -/
def Sale.cells (s : Sale) : List Cell :=
  [.text s.item, Affinity.oneZero (Cell.ofFloat s.price), .integer s.inStock, .integer s.sold,
    .text s.date.text]

namespace Ledger

/-- A sale of a tenant, as the master ledger has it. -/
abbrev Entry := Tenant × Sale

/-- The cells that the master ledger stores for an entry under a number. -/
def entryCells (number : Int) (e : Entry) : List Cell :=
  .integer number :: .text e.1.id :: e.2.cells

/-- A tenant's ledger of some sales. -/
def ofSales (sales : List Sale) : Table :=
  { emptyLedger with rows := sales.mapIdx fun i s => ⟨i + 1, s.cells⟩ }

/-- The master ledger of some entries. -/
def ofEntries (entries : List Entry) : Table :=
  { emptyMaster with
    rows := entries.mapIdx fun i e => ⟨i + 1, entryCells (i + 1) e⟩
    counted := entries.length }

@[simp] theorem ofSales_nil : ofSales [] = emptyLedger := rfl

@[simp] theorem ofEntries_nil : ofEntries [] = emptyMaster := rfl

theorem name_ofSales (sales : List Sale) : (ofSales sales).name = emptyLedger.name := rfl

theorem name_ofEntries (entries : List Entry) : (ofEntries entries).name = emptyMaster.name := rfl

/-- Without number and tenant an entry has the cells of its sale. -/
theorem cells_of_entry (number : Int) (e : Entry) : (entryCells number e).drop 2 = e.2.cells := rfl

theorem ofSales_concat (sales : List Sale) (s : Sale) : ofSales (sales ++ [s]) =
    { ofSales sales with rows := (ofSales sales).rows ++ [⟨sales.length + 1, s.cells⟩] } := by
  simp [ofSales, List.mapIdx_concat]

/-- Every sale has one row. -/
theorem cells_ofSales (sales : List Sale) :
    (ofSales sales).rows.map Row.cells = sales.map Sale.cells := by
  induction sales using List.reverseRecOn with
  | nil => rfl
  | append_singleton sales s ih =>
    rw [ofSales_concat]
    simp only [List.map_append, ih, List.map_cons, List.map_nil]

theorem ofEntries_concat (entries : List Entry) (e : Entry) : ofEntries (entries ++ [e]) =
    { ofEntries entries with
      rows := (ofEntries entries).rows ++
        [⟨entries.length + 1, entryCells (entries.length + 1) e⟩]
      counted := entries.length + 1 } := by
  simp [ofEntries, List.mapIdx_concat]

theorem map_cell_ofCell (cells : List Cell) : (cells.map Value.ofCell).map Value.cell = cells := by
  simp [Value.ofCell, Function.comp_def]

/-! ## Layouts -/

theorem isPlain_ofSales (sales : List Sale) : (ofSales sales).IsPlain := by
  refine ⟨fun c hc => ?_, fun c hc => ?_, rfl, rfl, rfl, rfl, rfl⟩
  · exact (by decide : ∀ c ∈ saleColumns, c.computed? = none) c hc
  · exact (by decide : ∀ c ∈ saleColumns, c.required? = none) c hc

theorem isPlain_ofEntries (entries : List Entry) : (ofEntries entries).IsPlain := by
  refine ⟨fun c hc => ?_, fun c hc => ?_, rfl, rfl, rfl, rfl, rfl⟩
  · exact (by decide : ∀ c ∈ masterColumns, c.computed? = none) c hc
  · exact (by decide : ∀ c ∈ masterColumns, c.required? = none) c hc

/-- The names of columns are told apart letter by letter. -/
theorem equalAscii_masterColumn : ∀ a ∈ masterColumns.map Column.name,
    ∀ b ∈ masterColumns.map Column.name, Text.equalAscii a b = (a == b) := by
  decide +kernel

/-! ## Numbers -/

theorem greatest_append (rows : List Row) {row : Row} (h : ∀ r ∈ rows, r.number < row.number) :
    Table.greatest (rows ++ [row]) = row.number := by
  cases rows with
  | nil => rfl
  | cons r rest =>
    rw [List.cons_append, Table.greatest, List.foldl_append]
    have hbound : ∀ (rest : List Row) (n : Int), n < row.number →
        (∀ r ∈ rest, r.number < row.number) →
        rest.foldl (fun n r => max n r.number) n < row.number := by
      intro rest
      induction rest with
      | nil => intro n hn _; exact hn
      | cons r rest ih =>
        intro n hn hrest
        have hr := hrest r (by simp)
        have hmax : max n r.number < row.number := by omega
        exact ih _ hmax fun r hr => hrest r (List.mem_cons_of_mem _ hr)
    have hlast := hbound rest r.number (h r (by simp)) fun r hr => h r (List.mem_cons_of_mem _ hr)
    simp only [List.foldl_cons, List.foldl_nil]
    omega

theorem number_lt_of_mem {α : Type} {cells : Nat → α → List Cell} {xs : List α} {r : Row}
    (h : r ∈ xs.mapIdx fun i x => (⟨i + 1, cells i x⟩ : Row)) :
    0 < r.number ∧ r.number < (xs.length : Int) + 1 := by
  obtain ⟨i, hi, rfl⟩ := List.mem_mapIdx.1 h
  dsimp only
  omega

theorem greatest_mapIdx {α : Type} (cells : Nat → α → List Cell) (xs : List α) :
    Table.greatest (xs.mapIdx fun i x => (⟨i + 1, cells i x⟩ : Row)) = xs.length := by
  induction xs using List.reverseRecOn with
  | nil => rfl
  | append_singleton xs x _ =>
    rw [List.mapIdx_concat, greatest_append]
    · simp
    · intro r hr
      exact (number_lt_of_mem hr).2

theorem nextNumber_ok {t : Table} {n : Int} (h : t.nextNumber = .ok n) :
    n = (if t.numbering?.any Numbering.isCounter then t.counted
      else Table.greatest t.rows) + 1 := by
  unfold Table.nextNumber at h
  generalize (if t.numbering?.any Numbering.isCounter then t.counted
    else Table.greatest t.rows) = last at h ⊢
  dsimp only at h
  split at h
  · exact (Except.ok.inj h).symm
  · cases h

theorem nextNumber_ofSales {sales : List Sale} {n : Int}
    (h : (ofSales sales).nextNumber = .ok n) : n = sales.length + 1 := by
  have hcounter : (ofSales sales).numbering?.any Numbering.isCounter = false := rfl
  rw [nextNumber_ok h, hcounter, if_neg Bool.false_ne_true]
  exact congrArg (· + 1) (greatest_mapIdx (fun _ => Sale.cells) sales)

theorem nextNumber_ofEntries {entries : List Entry} {n : Int}
    (h : (ofEntries entries).nextNumber = .ok n) : n = entries.length + 1 := by
  have hcounter : (ofEntries entries).numbering?.any Numbering.isCounter = true := rfl
  rw [nextNumber_ok h, hcounter, if_pos rfl]
  rfl

/-! ## Inserting -/

theorem values_mem_columns {s : Sale} {g : String × Cell} (h : g ∈ s.values) :
    g.1 ∈ Sale.columns := by
  rw [← s.values_keys]
  exact List.mem_map_of_mem h

theorem store_price (s : Sale) :
    Affinity.store .real (Affinity.store .real (Cell.ofFloat s.price)) =
    Affinity.oneZero (Cell.ofFloat s.price) := by
  unfold Cell.ofFloat
  split
  · rfl
  · exact Affinity.store_oneZero s.price

theorem stored_sale (sales : List Sale) (s : Sale) (n : Int) :
    (ofSales sales).stored ((ofSales sales).stored ⟨n, s.values.map fun g => .ofCell g.2⟩) =
      ⟨n, s.cells.map Value.ofCell⟩ := by
  show (⟨n, [_, Value.ofCell _, _, _, _]⟩ : Candidate) = ⟨n, [_, Value.ofCell _, _, _, _]⟩
  rw [← store_price]
  rfl

theorem valuesOf_sale (sales : List Sale) (session : Session) (s : Sale) :
    (ofSales sales).valuesOf session s.values = .ok (s.values.map fun g => .ofCell g.2) := by
  have hplaced : (ofSales sales).placed = saleColumns.zipIdx := rfl
  unfold Table.valuesOf
  rw [hplaced]
  simp (disch := simp [masterColumns, saleColumns]) [saleColumns, Sale.values, List.find?,
    equalAscii_masterColumn]
  rfl

/-- A ledger takes a sale. -/
theorem takes_ofSales (sales : List Sale) (session : Session) (s : Sale) :
    (ofSales sales).Takes session s.values fun _ => s.values.map fun g => .ofCell g.2 where
  plain := isPlain_ofSales sales
  names g hg := (by decide +kernel : ∀ n ∈ Sale.columns, emptyLedger.nameFault? n = none) _
    (values_mem_columns hg)
  number g hg := (by decide +kernel : ∀ n ∈ Sale.columns,
    emptyLedger.index? n ≠ emptyLedger.numberIndex?) _ (values_mem_columns hg)
  numbered := by
    rw [valuesOf_sale]
    rfl
  length _ := rfl
  last n hn r hr := by
    rw [nextNumber_ofSales hn]
    exact (number_lt_of_mem hr).2

/-- **A sale is appended to a ledger.** -/
theorem insert_ofSales {sales : List Sale} {s : Sale} {x y : Transaction}
    (hx : x.table = ofSales sales) (hy : x.insert s.values = .ok y) :
    y.table = ofSales (sales ++ [s]) ∧ y.missing = x.missing := by
  obtain ⟨n, hn, hmissing, htable⟩ :=
    Transaction.table_of_insert (hx ▸ takes_ofSales sales x.session s) hy
  refine ⟨?_, hmissing⟩
  obtain rfl := nextNumber_ofSales (hx ▸ hn)
  rw [htable, hx, stored_sale, Candidate.row, map_cell_ofCell, ofSales_concat]
  rfl

theorem stored_entry (entries : List Entry) (e : Entry) (n : Int) :
    (ofEntries entries).stored ((ofEntries entries).stored
      ⟨n, .integer n :: (masterValues e.1 e.2).map fun g => .ofCell g.2⟩) =
      ⟨n, (entryCells n e).map Value.ofCell⟩ := by
  show (⟨n, [_, _, _, Value.ofCell _, _, _, _]⟩ : Candidate) =
    ⟨n, [_, _, _, Value.ofCell _, _, _, _]⟩
  rw [← store_price]
  rfl

theorem valuesOf_entry (entries : List Entry) (session : Session) (e : Entry) :
    (ofEntries entries).valuesOf session (masterValues e.1 e.2) =
      .ok (.null :: (masterValues e.1 e.2).map fun g => .ofCell g.2) := by
  have hplaced : (ofEntries entries).placed = masterColumns.zipIdx := rfl
  have hnumber : (ofEntries entries).numberIndex? = some 0 := rfl
  unfold Table.valuesOf
  rw [hplaced, hnumber]
  simp (disch := simp [masterColumns, saleColumns]) [masterColumns, saleColumns, masterValues,
    Sale.values, List.find?, equalAscii_masterColumn]
  rfl

theorem numbered_entry (entries : List Entry) (values : List Value) :
    (ofEntries entries).numbered (.null :: values) =
      (ofEntries entries).nextNumber.map fun n => ⟨n, .integer n :: values⟩ := by
  have hnumber : (ofEntries entries).numberIndex? = some 0 := rfl
  have hnull : Affinity.integer.store ((Value.null :: values).getD 0 .null).cell = .null :=
    Affinity.store_null .integer
  unfold Table.numbered
  simp only [hnumber, hnull, List.set_cons_zero]

theorem counting_ofEntries (entries : List Entry) :
    (ofEntries entries).counting (entries.length + 1) =
      { ofEntries entries with counted := entries.length + 1 } := by
  have hcounter : (ofEntries entries).numbering?.isSome = true := rfl
  have hmax : max (ofEntries entries).counted (entries.length + 1) = entries.length + 1 := by
    show max (entries.length : Int) (entries.length + 1) = _
    omega
  rw [Table.counting, if_pos hcounter, hmax]

theorem masterValues_mem_columns {e : Entry} {g : String × Cell}
    (h : g ∈ masterValues e.1 e.2) : g.1 ∈ "phone_number" :: Sale.columns := by
  rcases List.mem_cons.1 h with rfl | hg
  · exact List.mem_cons_self
  · exact List.mem_cons_of_mem _ (values_mem_columns hg)

/-- The master ledger takes an entry. -/
theorem takes_ofEntries (entries : List Entry) (session : Session) (e : Entry) :
    (ofEntries entries).Takes session (masterValues e.1 e.2) fun n =>
      .integer n :: (masterValues e.1 e.2).map fun g => .ofCell g.2 where
  plain := isPlain_ofEntries entries
  names g hg := (by decide +kernel : ∀ n ∈ "phone_number" :: Sale.columns,
    emptyMaster.nameFault? n = none) _ (masterValues_mem_columns hg)
  number g hg := (by decide +kernel : ∀ n ∈ "phone_number" :: Sale.columns,
    emptyMaster.index? n ≠ emptyMaster.numberIndex?) _ (masterValues_mem_columns hg)
  numbered := by
    rw [valuesOf_entry, Except.bind, numbered_entry]
  length _ := rfl
  last n hn r hr := by
    rw [nextNumber_ofEntries hn]
    exact (number_lt_of_mem hr).2

/-- **An entry is appended to the master ledger** under the next number. -/
theorem insert_ofEntries {entries : List Entry} {e : Entry} {x y : Transaction}
    (hx : x.table = ofEntries entries) (hy : x.insert (masterValues e.1 e.2) = .ok y) :
    y.table = ofEntries (entries ++ [e]) ∧ y.missing = x.missing := by
  obtain ⟨n, hn, hmissing, htable⟩ :=
    Transaction.table_of_insert (hx ▸ takes_ofEntries entries x.session e) hy
  refine ⟨?_, hmissing⟩
  obtain rfl := nextNumber_ofEntries (hx ▸ hn)
  rw [htable, hx, stored_entry, Candidate.row, map_cell_ofCell, ofEntries_concat,
    counting_ofEntries]

/-- The most entries that the master ledger has numbers for. -/
def mostEntries : Nat := 0x7fffffffffffffff

theorem nextNumber_of_room {entries : List Entry} (h : entries.length < mostEntries) :
    (ofEntries entries).nextNumber = .ok (entries.length + 1) := by
  have hcounter : (ofEntries entries).numbering?.any Numbering.isCounter = true := rfl
  have hcounted : (ofEntries entries).counted = entries.length := rfl
  unfold mostEntries at h
  unfold Table.nextNumber
  rw [hcounter, if_pos rfl, hcounted]
  exact if_pos (by omega)

/-! ## Batches -/

/-- **A batch is appended to a ledger** row by row. -/
theorem insertAll_ofSales {sales batch : List Sale} {x y : Transaction}
    (hx : x.table = ofSales sales) (hy : x.insertAll (batch.map Sale.values) = .ok y) :
    y.table = ofSales (sales ++ batch) ∧ y.missing = x.missing := by
  induction batch generalizing sales x with
  | nil =>
    obtain rfl := Except.ok.inj hy
    rw [List.append_nil]
    exact ⟨hx, rfl⟩
  | cons s batch ih =>
    rw [List.map_cons, Transaction.insertAll, List.foldlM_cons] at hy
    cases hs : x.insert s.values with
    | error f =>
      rw [hs] at hy
      cases hy
    | ok z =>
      rw [hs] at hy
      obtain ⟨hz, hmissing⟩ := insert_ofSales hx hs
      obtain ⟨hbatch, hmissing'⟩ := ih hz hy
      rw [List.append_assoc] at hbatch
      exact ⟨hbatch, hmissing'.trans hmissing⟩

/-- **A tenant's batch is appended to the master ledger**, each sale with its tenant. -/
theorem insertAll_ofEntries {entries : List Entry} {t : Tenant} {batch : List Sale}
    {x y : Transaction} (hx : x.table = ofEntries entries)
    (hy : x.insertAll (batch.map (masterValues t)) = .ok y) :
    y.table = ofEntries (entries ++ batch.map (t, ·)) ∧ y.missing = x.missing := by
  induction batch generalizing entries x with
  | nil =>
    obtain rfl := Except.ok.inj hy
    rw [List.map_nil, List.append_nil]
    exact ⟨hx, rfl⟩
  | cons s batch ih =>
    rw [List.map_cons, Transaction.insertAll, List.foldlM_cons] at hy
    cases hs : x.insert (masterValues t s) with
    | error f =>
      rw [hs] at hy
      cases hy
    | ok z =>
      rw [hs] at hy
      obtain ⟨hz, hmissing⟩ := insert_ofEntries (e := (t, s)) hx hs
      obtain ⟨hbatch, hmissing'⟩ := ih hz hy
      rw [List.append_assoc] at hbatch
      exact ⟨hbatch, hmissing'.trans hmissing⟩

/-- **The master ledger takes a batch** that it has numbers for. -/
theorem insertAll_ofEntries_of_room {entries : List Entry} {t : Tenant} {batch : List Sale}
    {x : Transaction} (hx : x.table = ofEntries entries)
    (hroom : entries.length + batch.length ≤ mostEntries) :
    ∃ y, x.insertAll (batch.map (masterValues t)) = .ok y := by
  induction batch generalizing entries x with
  | nil => exact ⟨x, rfl⟩
  | cons s batch ih =>
    rw [List.length_cons] at hroom
    have hnext : x.table.nextNumber = .ok (entries.length + 1) :=
      hx ▸ nextNumber_of_room (by omega)
    obtain ⟨session, hs⟩ :=
      Transaction.insert_of_nextNumber (hx ▸ takes_ofEntries entries x.session (t, s)) hnext
    obtain ⟨hz, -⟩ := insert_ofEntries (e := (t, s)) hx hs
    rw [List.map_cons, Transaction.insertAll, List.foldlM_cons]
    simp only [hs, bind, Except.bind]
    exact ih hz (by rw [List.length_append, List.length_singleton]; omega)

end Ledger

end SalesLedger
