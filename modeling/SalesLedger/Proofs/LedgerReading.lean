import SalesLedger.Proofs.Appending
import SalesLedger.Service

/-!
# Reading ledgers

What a reader of a tenant's ledger gets is what the ledger holds: `rows_of_held`, a query is
answered from the table of the sales that were appended, where the ledger can be read at all. A
ledger that cannot be read has no columns, so a name that resolves tells that it can.
-/

namespace SalesLedger.Storage.Store

open Sql Ledger

variable {config : Config} {d : Disk} {t : Tenant}

theorem place?_of_readOnly (hdir : config.HasPlainDirectory) {h : Handle} {d' : Disk}
    (hopen : Handle.ofText d .readOnly (ledgerPath config t) = .ok (h, d')) :
    h.place? = some (Path.place d.working (ledgerPath config t)) := by
  rw [(Handle.eq_of_ofText (ofText_ledgerPath hdir t .readOnly)
    (isTransient_ledgerPath t (by decide) false) hopen).1]

/-- What is opened to be read stands where the tenant's ledger is held. -/
theorem openLedger_ok (hdir : config.HasPlainDirectory) {action : String} {db : Database}
    (h : openLedger config d t action = .ok db) :
    ledgerExists config d t = true ∧ (∀ action', openLedger config d t action' = .ok db) ∧
      ∀ name, d.table? (Path.place d.working (ledgerPath config t)) name = db.table? name := by
  unfold openLedger at h
  dsimp only at h
  split at h
  · rename_i hexists
    cases hopen : Handle.ofText d .readOnly (ledgerPath config t) with
    | error f =>
      rw [hopen] at h
      cases h
    | ok opened =>
      obtain ⟨handle, d'⟩ := opened
      rw [hopen] at h
      dsimp only at h
      cases hdb : handle.database d with
      | error f =>
        rw [hdb] at h
        cases h
      | ok db' =>
        rw [hdb] at h
        obtain rfl := Except.ok.inj h
        refine ⟨hexists, fun action' => ?_, fun name => ?_⟩
        · unfold openLedger
          dsimp only
          rw [if_pos hexists, hopen]
          dsimp only
          rw [hdb]
        · rw [Handle.database, place?_of_readOnly hdir hopen] at hdb
          exact Disk.table?_of_database hdb name
  · cases h

/-- A ledger that has columns can be read, and what is read is what is held. -/
theorem openLedger_of_schema (hdir : config.HasPlainDirectory)
    (hschema : (schema config d t).columns ≠ []) :
    ∃ db, (∀ action, openLedger config d t action = .ok db) ∧ ledgerExists config d t = true ∧
      db.table? Ledger.table = some (heldLedger config d t) := by
  unfold schema columns at hschema
  cases hopen : openLedger config d t "reading schema" with
  | error f =>
    rw [hopen] at hschema
    exact absurd rfl hschema
  | ok db =>
    obtain ⟨hexists, hagain, htables⟩ := openLedger_ok hdir hopen
    refine ⟨db, hagain, hexists, ?_⟩
    cases htable : db.table? Ledger.table with
    | none =>
      rw [hopen] at hschema
      simp only [bind, Except.bind, htable] at hschema
      exact absurd rfl hschema
    | some u =>
      rw [heldLedger, tableAt_of_table? emptyLedger (placeOf?_ledgerPath hdir d.working t)
        ((htables Ledger.table).trans htable)]

/-- The columns of the ledgers that the program makes. -/
theorem givenColumns_ofSales (sales : List Sale) :
    (ofSales sales).givenColumns = Sale.columns := rfl

/-- What the engine makes of a query of a ledger that can be read: that of the sales that it
holds. -/
theorem query_of_held (hdir : config.HasPlainDirectory) {sales : List Sale}
    (hheld : heldLedger config d t = ofSales sales)
    (hschema : (schema config d t).columns ≠ []) {s : Select} (hs : s.table = Ledger.table) :
    query config d t s =
      (s.run (ofSales sales)).mapError (storageFailure t "reading rows") := by
  obtain ⟨db, hopen, -, htable⟩ := openLedger_of_schema hdir hschema
  rw [hheld] at htable
  unfold query
  simp only [hopen, bind, Except.bind, hs, htable]
  cases s.run (ofSales sales) with
  | error f => rfl
  | ok rows => rfl

/-- **A query of a ledger is answered from the sales that it holds**, where it can be read. -/
theorem rows_of_held (hdir : config.HasPlainDirectory) {sales : List Sale}
    (hheld : heldLedger config d t = ofSales sales)
    (hschema : (schema config d t).columns ≠ []) :
    ledgerExists config d t = true ∧ schema config d t = ⟨Sale.columns⟩ ∧
      ∀ s : Select, s.table = Ledger.table →
        rows config d t s = (s.run (ofSales sales)).toOption.getD [] := by
  obtain ⟨db, hopen, hexists, htable⟩ := openLedger_of_schema hdir hschema
  rw [hheld] at htable
  refine ⟨hexists, ?_, fun s hs => ?_⟩
  · unfold schema columns
    simp only [hopen, bind, Except.bind, htable, pure, Except.pure, Option.map_some,
      Option.getD_some, givenColumns_ofSales]
  · unfold rows
    rw [query_of_held hdir hheld hschema hs]
    cases s.run (ofSales sales) with
    | error f => rfl
    | ok rows => rfl

/-- A ledger without columns answers no query. -/
theorem rows_of_no_columns (hdir : config.HasPlainDirectory) {sales : List Sale}
    (hheld : heldLedger config d t = ofSales sales) (hnone : (schema config d t).columns = [])
    {s : Select} (hs : s.table = Ledger.table) : rows config d t s = [] := by
  unfold rows query
  cases hopen : openLedger config d t "preparing query" with
  | error f => rfl
  | ok db =>
    obtain ⟨-, hagain, htables⟩ := openLedger_ok hdir hopen
    cases htable : db.table? Ledger.table with
    | none =>
      simp only [bind, Except.bind, hs, htable]
      rfl
    | some u =>
      have hu : heldLedger config d t = u :=
        tableAt_of_table? emptyLedger (placeOf?_ledgerPath hdir d.working t)
          ((htables Ledger.table).trans htable)
      unfold schema columns at hnone
      rw [hagain] at hnone
      simp only [bind, Except.bind, htable, pure, Except.pure, Option.map_some, Option.getD_some,
        ← hu, hheld, givenColumns_ofSales] at hnone
      cases hnone

end SalesLedger.Storage.Store
