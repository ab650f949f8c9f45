import SalesLedger.Proofs.Lasting

/-!
# How many sales a ledger has

Each row of a ledger has a number of 64 bits, so a ledger takes no more sales than there are numbers:
`length_sales_le`. The bound is kept by every batch that is written (`length_insertAll_le`), and so
by a run.
-/

namespace SalesLedger

open Storage Sql Ledger

/-! ## Tables -/

namespace Ledger

/-- The greatest number of a row. -/
def greatestNumber : Nat := 0x7fffffffffffffff

theorem length_rows_ofSales (sales : List Sale) : (ofSales sales).rows.length = sales.length := by
  have hcells := congrArg List.length (cells_ofSales sales)
  simpa using hcells

theorem length_lt_of_nextNumber {sales : List Sale} {n : Int}
    (h : (ofSales sales).nextNumber = .ok n) : sales.length < greatestNumber := by
  have hlast : (if (ofSales sales).numbering?.any Numbering.isCounter then (ofSales sales).counted
      else Table.greatest (ofSales sales).rows) = sales.length :=
    greatest_mapIdx (fun _ => Sale.cells) sales
  unfold Table.nextNumber at h
  rw [hlast] at h
  dsimp only at h
  split at h
  · rename_i hless
    unfold greatestNumber
    omega
  · cases h

/-- **A batch that was inserted has numbers.** -/
theorem length_insertAll_le {sales batch : List Sale} {x y : Transaction}
    (hx : x.table = ofSales sales) (hroom : sales.length ≤ greatestNumber)
    (hy : x.insertAll (batch.map Sale.values) = .ok y) :
    (sales ++ batch).length ≤ greatestNumber := by
  induction batch generalizing sales x with
  | nil => rwa [List.append_nil]
  | cons s batch ih =>
    rw [List.map_cons, Transaction.insertAll, List.foldlM_cons] at hy
    cases hs : x.insert s.values with
    | error f =>
      rw [hs] at hy
      cases hy
    | ok z =>
      rw [hs] at hy
      obtain ⟨hz, -⟩ := insert_ofSales hx hs
      obtain ⟨n, hn, -, -⟩ :=
        Transaction.table_of_insert (hx ▸ takes_ofSales sales x.session s) hs
      have hless := length_lt_of_nextNumber (hx ▸ hn)
      have hbatch := ih hz (by rw [List.length_append]; exact hless) hy
      rwa [List.append_assoc] at hbatch

end Ledger

/-! ## Ledgers -/

namespace History

/-- Every ledger has numbers for its rows. -/
def IsNumbered (config : Config) (d : Disk) : Prop :=
  ∀ t, (Store.heldLedger config d t).rows.length ≤ greatestNumber

variable {config : Config}

/-- **A run keeps the rows of all ledgers numbered.** -/
theorem isKept_isNumbered (hdir : config.HasPlainDirectory) :
    IsKept config (IsNumbered config) where
  quiet {d d' ledgers master master'} hd hd' hkeep h := by
    intro t
    rw [hd'.ledger, ← hd.ledger]
    exact h t
  write {d ledgers master} hd h t sales := by
    obtain ⟨r, d', hr⟩ : ∃ r d', Store.appendToLedger config d t sales = (r, d') := ⟨_, _, rfl⟩
    rw [hr]
    rcases Store.appendToLedger_cases hdir hd hr with ⟨f, rfl, hheld⟩ | ⟨rfl, hheld⟩
    · intro s
      rw [hheld.ledger, ← hd.ledger]
      exact h s
    · have hroom : (ledgers t).length ≤ greatestNumber := by
        rw [← length_rows_ofSales, ← hd.ledger]
        exact h t
      have hadded : (ledgers t ++ sales).length ≤ greatestNumber := by
        have hensured := Store.holds_ensureLedger hd t
        unfold Store.appendToLedger at hr
        split at hr
        · cases (Prod.mk.inj hr).1
        · rename_i made heq
          rw [heq] at hensured
          rcases Store.insertAt_cases hr with ⟨f, hfailed, -⟩ | ⟨p, u, x, -, hp, hu, hx, -, -⟩
          · cases hfailed
          · -- the table that rows were inserted into was the tenant's
            have hledger : u = ofSales (ledgers t) := by
              rw [← hensured.ledger t, Store.heldLedger, Store.tableAt_of_table? emptyLedger hp hu]
            exact length_insertAll_le hledger hroom hx
      intro s
      rw [hheld.ledger, length_rows_ofSales]
      by_cases hs : s = t
      · subst hs
        rwa [Store.addTo_self]
      · rw [Store.addTo_of_ne hs, ← length_rows_ofSales, ← hd.ledger]
        exact h s

/-- **A ledger has no more sales than there are numbers**, after any run from a disk without
ledgers. -/
theorem length_sales_le {d₀ : Disk} (h : Begins config d₀) (steps : List Step) {t : Tenant}
    {sales : List Sale}
    (hheld : Store.heldLedger config (after config d₀ steps) t = ofSales sales) :
    sales.length ≤ greatestNumber := by
  have hempty : IsNumbered config d₀ := by
    intro s
    rw [h.ledger]
    exact Nat.zero_le _
  have hnumbered :=
    (isKept_isNumbered h.directory).after h.directory h.holds hempty steps t
  rwa [hheld, length_rows_ofSales] at hnumbered

end History

end SalesLedger
