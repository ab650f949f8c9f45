import SalesLedger.Proofs.Contents
import SalesLedger.Proofs.LedgerTable
import SalesLedger.Proofs.Places

/-!
# What appending does

`Store.Holds config d ledgers master`: the tables on a disk are those that the program makes, filled
with these sales. One law for each operation of the store says what is held afterwards.

* `holds_ensureLedger`, `holds_ensureMaster`: making ledgers changes no sale, whether it succeeds or
  not.
* `appendToLedger_cases`, `appendToMaster_cases`: a batch is appended as a whole, or not at all.
* `append_cases`: the two steps together. Between them a batch is in the tenant's ledger alone, and
  it stays there when the second step fails.
-/

namespace SalesLedger.Storage.Store

open Sql Ledger

/-- The table in the database where a path leads, or the one that would be made there. -/
def tableAt (d : Disk) (path : String) (fresh : Table) : Table :=
  ((placeOf? d.working path).bind fun p => d.table? p fresh.name).getD fresh

variable (config : Config)

/-- A tenant's ledger. One that was not made yet has no rows. -/
def heldLedger (d : Disk) (t : Tenant) : Table :=
  tableAt d (ledgerPath config t) emptyLedger

/-- The master ledger. -/
def heldMaster (d : Disk) : Table :=
  tableAt d config.masterPath emptyMaster

/-- The ledgers hold these sales of the tenants, and the master ledger these entries. -/
structure Holds (d : Disk) (ledgers : Tenant → List Sale) (master : List Entry) : Prop where
  ledger : ∀ t, heldLedger config d t = ofSales (ledgers t)
  master : heldMaster config d = ofEntries master

/-- The sales of the tenants with more of one of them. -/
def addTo (ledgers : Tenant → List Sale) (t : Tenant) (sales : List Sale) : Tenant → List Sale :=
  fun s => if s = t then ledgers s ++ sales else ledgers s

@[simp] theorem addTo_self (ledgers : Tenant → List Sale) (t : Tenant) (sales : List Sale) :
    addTo ledgers t sales t = ledgers t ++ sales := if_pos rfl

theorem addTo_of_ne {ledgers : Tenant → List Sale} {s t : Tenant} (h : s ≠ t)
    (sales : List Sale) : addTo ledgers t sales s = ledgers s := if_neg h

theorem addTo_nil (ledgers : Tenant → List Sale) (t : Tenant) : addTo ledgers t [] = ledgers := by
  funext s
  unfold addTo
  rw [List.append_nil, ite_self]

theorem addTo_addTo (ledgers : Tenant → List Sale) (t : Tenant) (sales more : List Sale) :
    addTo (addTo ledgers t sales) t more = addTo ledgers t (sales ++ more) := by
  funext s
  unfold addTo
  split
  · rw [List.append_assoc]
  · rfl

variable {config} {d d' : Disk} {ledgers : Tenant → List Sale} {master : List Entry}

/-! ## Tables that stay -/

theorem tableAt_of_sameTables (h : d.SameTables d') (path : String) (fresh : Table) :
    tableAt d' path fresh = tableAt d path fresh := by
  have htable : (fun p => d'.table? p fresh.name) = fun p => d.table? p fresh.name :=
    funext fun p => h.tables p fresh.name
  unfold tableAt
  rw [h.working, htable]

theorem Holds.of_sameTables (hd : Holds config d ledgers master) (h : d.SameTables d') :
    Holds config d' ledgers master :=
  ⟨fun t => (tableAt_of_sameTables h _ _).trans (hd.ledger t),
    (tableAt_of_sameTables h _ _).trans hd.master⟩

/-- A table that is made holds what was held before: nothing. -/
theorem tableAt_of_ensureTable {h : Handle} {made fresh : Table}
    (hmade : ensureTable d h made = .ok d')
    (hname : Text.equalAscii made.name fresh.name = true → made = fresh) (path : String) :
    tableAt d' path fresh = tableAt d path fresh := by
  obtain ⟨hworking, htables⟩ := table?_of_ensureTable hmade
  unfold tableAt
  rw [hworking]
  cases placeOf? d.working path with
  | none => rfl
  | some p =>
    rcases htables p fresh.name with hsame | ⟨-, hnone, hequal, hsome⟩
    · rw [Option.bind_some, Option.bind_some, hsame]
    · obtain rfl := hname hequal
      rw [Option.bind_some, Option.bind_some, hnone, hsome]
      rfl

/-- The names of the two tables are told apart. -/
theorem ledger_name_ne_master : ¬ Text.equalAscii emptyLedger.name emptyMaster.name = true := by
  decide +kernel

theorem master_name_ne_ledger : ¬ Text.equalAscii emptyMaster.name emptyLedger.name = true := by
  decide +kernel

theorem Holds.of_ensureTable (hd : Holds config d ledgers master) {h : Handle} {made : Table}
    (hkind : made = emptyLedger ∨ made = emptyMaster) (hmade : ensureTable d h made = .ok d') :
    Holds config d' ledgers master := by
  have hledger : Text.equalAscii made.name emptyLedger.name = true → made = emptyLedger := by
    intro hname
    rcases hkind with rfl | rfl
    · rfl
    · exact absurd hname master_name_ne_ledger
  have hmaster : Text.equalAscii made.name emptyMaster.name = true → made = emptyMaster := by
    intro hname
    rcases hkind with rfl | rfl
    · exact absurd hname ledger_name_ne_master
    · rfl
  exact ⟨fun t => (tableAt_of_ensureTable hmade hledger _).trans (hd.ledger t),
    (tableAt_of_ensureTable hmade hmaster _).trans hd.master⟩

/-! ## Making ledgers -/

/-- **Making a tenant's ledger changes no sale**, whether it succeeds or not. -/
theorem holds_ensureLedger (hd : Holds config d ledgers master) (t : Tenant) :
    Holds config (ensureLedger config d t).2 ledgers master := by
  have hdirectories := hd.of_sameTables (d.sameTables_makeDirectories config.dataDir)
  unfold ensureLedger
  split
  · rename_i heq
    rwa [heq] at hdirectories
  · rename_i heq
    rw [heq] at hdirectories
    split
    · exact hdirectories
    · rename_i hopen
      have hopened := hdirectories.of_sameTables (Handle.ofText_spec hopen).1
      split
      · exact hopened
      · rename_i hmade
        exact hopened.of_ensureTable (.inl rfl) hmade

/-- **Making the master ledger changes no sale**, whether it succeeds or not. -/
theorem holds_ensureMaster (hd : Holds config d ledgers master) :
    Holds config (ensureMaster config d).2 ledgers master := by
  have hdirectories := hd.of_sameTables
    (d.sameTables_makeDirectories (Path.above config.masterPath))
  unfold ensureMaster
  split
  · rename_i heq
    rwa [heq] at hdirectories
  · rename_i heq
    rw [heq] at hdirectories
    split
    · exact hdirectories
    · rename_i hopen
      have hopened := hdirectories.of_sameTables (Handle.ofText_spec hopen).1
      split
      · exact hopened
      · rename_i hmade
        exact hopened.of_ensureTable (.inr rfl) hmade

/-! ## Inserting -/

theorem placeOf?_ledgerPath (hdir : config.HasPlainDirectory) (working : Place) (t : Tenant) :
    placeOf? working (ledgerPath config t) = some (Path.place working (ledgerPath config t)) := by
  unfold placeOf?
  rw [ofText_ledgerPath hdir]
  dsimp only
  rw [isTransient_ledgerPath t (by decide), if_neg Bool.false_ne_true]

/-- What stands at a path when one table of one place was filled. -/
theorem tableAt_of_filled {p : Place} {filled fresh : Table} (hworking : d'.working = d.working)
    (htables : ∀ q other, d'.table? q other =
      if q = p ∧ Text.equalAscii filled.name other = true then some filled else d.table? q other)
    (path : String) :
    tableAt d' path fresh =
      if placeOf? d.working path = some p ∧ Text.equalAscii filled.name fresh.name = true
      then filled
      else tableAt d path fresh := by
  unfold tableAt
  rw [hworking]
  cases placeOf? d.working path with
  | none =>
    rw [if_neg (by simp)]
    rfl
  | some q =>
    simp only [Option.bind_some, htables, Option.some.injEq]
    split <;> rfl

theorem tableAt_of_table? {p : Place} {path : String} (fresh : Table) {u : Table}
    (hp : placeOf? d.working path = some p) (hu : d.table? p fresh.name = some u) :
    tableAt d path fresh = u := by
  rw [tableAt, hp, Option.bind_some, hu, Option.getD_some]

/-- **A batch goes into a tenant's ledger as a whole**, or not at all. -/
theorem appendToLedger_cases (hdir : config.HasPlainDirectory)
    (hd : Holds config d ledgers master) {t : Tenant} {sales : List Sale}
    {r : Except Failure Unit} (h : appendToLedger config d t sales = (r, d')) :
    (∃ f, r = .error f ∧ Holds config d' ledgers master) ∨
      (r = .ok () ∧ Holds config d' (addTo ledgers t sales) master) := by
  have hensured := holds_ensureLedger hd t
  unfold appendToLedger at h
  split at h
  · rename_i heq
    obtain ⟨rfl, rfl⟩ := Prod.mk.inj h
    rw [heq] at hensured
    exact .inl ⟨_, rfl, hensured⟩
  · rename_i made heq
    rw [heq] at hensured
    rcases insertAt_cases h with ⟨f, rfl, hsame⟩ | ⟨p, u, x, rfl, hp, hu, hx, hworking, htables⟩
    · exact .inl ⟨f, rfl, hensured.of_sameTables hsame⟩
    · right
      have hledger : u = ofSales (ledgers t) := by
        rw [← hensured.ledger t, heldLedger, tableAt_of_table? emptyLedger hp hu]
      obtain ⟨hfilled, -⟩ := insertAll_ofSales hledger hx
      have hname : x.table.name = emptyLedger.name := by rw [hfilled, name_ofSales]
      refine ⟨rfl, fun s => ?_, ?_⟩
      · -- only the tenant's own ledger is at the place that was written to
        rw [heldLedger, tableAt_of_filled hworking htables, hname]
        by_cases hs : s = t
        · subst hs
          rw [if_pos ⟨hp, Text.equalAscii_refl _⟩, hfilled, addTo_self]
        · have hplace : placeOf? made.working (ledgerPath config s) ≠ some p := by
            rw [← hp, placeOf?_ledgerPath hdir, placeOf?_ledgerPath hdir]
            exact fun heq => hs (eq_of_place_ledgerPath (Option.some.inj heq))
          rw [if_neg fun hand => hplace hand.1, addTo_of_ne hs]
          exact hensured.ledger s
      · rw [heldMaster, tableAt_of_filled hworking htables, hname,
          if_neg fun hand => ledger_name_ne_master hand.2]
        exact hensured.master

/-- **A batch goes into the master ledger as a whole**, or not at all. -/
theorem appendToMaster_cases (hd : Holds config d ledgers master) {t : Tenant} {sales : List Sale}
    {r : Except Failure Unit} (h : appendToMaster config d t sales = (r, d')) :
    (∃ f, r = .error f ∧ Holds config d' ledgers master) ∨
      (r = .ok () ∧ Holds config d' ledgers (master ++ sales.map (t, ·))) := by
  have hensured := holds_ensureMaster hd
  unfold appendToMaster at h
  split at h
  · rename_i heq
    obtain ⟨rfl, rfl⟩ := Prod.mk.inj h
    rw [heq] at hensured
    exact .inl ⟨_, rfl, hensured⟩
  · rename_i made heq
    rw [heq] at hensured
    rcases insertAt_cases h with ⟨f, rfl, hsame⟩ | ⟨p, u, x, rfl, hp, hu, hx, hworking, htables⟩
    · exact .inl ⟨f, rfl, hensured.of_sameTables hsame⟩
    · right
      have hmaster : u = ofEntries master := by
        rw [← hensured.master, heldMaster, tableAt_of_table? emptyMaster hp hu]
      obtain ⟨hfilled, -⟩ := insertAll_ofEntries hmaster hx
      have hname : x.table.name = emptyMaster.name := by rw [hfilled, name_ofEntries]
      refine ⟨rfl, fun s => ?_, ?_⟩
      · rw [heldLedger, tableAt_of_filled hworking htables, hname,
          if_neg fun hand => master_name_ne_ledger hand.2]
        exact hensured.ledger s
      · rw [heldMaster, tableAt_of_filled hworking htables, hname,
          if_pos ⟨hp, Text.equalAscii_refl _⟩, hfilled]

/-- **What an append leaves behind**: everything as it was, the batch in the tenant's ledger alone,
or the batch in both. -/
theorem append_cases (hdir : config.HasPlainDirectory) (hd : Holds config d ledgers master)
    {t : Tenant} {sales : List Sale} {r : Except Failure Nat}
    (h : append config d t sales = (r, d')) :
    (∃ f, r = .error f ∧ (appendToLedger config d t sales).1 = .error f ∧
        Holds config d' ledgers master) ∨
      (∃ f, r = .error f ∧ (appendToLedger config d t sales).1 = .ok () ∧
        Holds config d' (addTo ledgers t sales) master) ∨
      (r = .ok sales.length ∧
        Holds config d' (addTo ledgers t sales) (master ++ sales.map (t, ·))) := by
  unfold append at h
  split at h
  · rename_i hempty
    obtain rfl := List.isEmpty_iff.1 hempty
    obtain ⟨rfl, rfl⟩ := Prod.mk.inj h
    rw [addTo_nil, List.map_nil, List.append_nil]
    exact .inr (.inr ⟨rfl, hd⟩)
  · split at h
    · rename_i f made hledger
      obtain ⟨rfl, rfl⟩ := Prod.mk.inj h
      rcases appendToLedger_cases hdir hd hledger with ⟨_, -, hheld⟩ | ⟨hok, -⟩
      · exact .inl ⟨f, rfl, by rw [hledger], hheld⟩
      · cases hok
    · rename_i made hledger
      rcases appendToLedger_cases hdir hd hledger with ⟨f, herror, -⟩ | ⟨-, hheld⟩
      · cases herror
      · split at h
        · rename_i f synced hmaster
          obtain ⟨rfl, rfl⟩ := Prod.mk.inj h
          rcases appendToMaster_cases hheld hmaster with ⟨_, -, hheld'⟩ | ⟨hok, -⟩
          · exact .inr (.inl ⟨f, rfl, by rw [hledger], hheld'⟩)
          · cases hok
        · rename_i synced hmaster
          obtain ⟨rfl, rfl⟩ := Prod.mk.inj h
          rcases appendToMaster_cases hheld hmaster with ⟨f, herror, -⟩ | ⟨-, hheld'⟩
          · cases herror
          · exact .inr (.inr ⟨rfl, hheld'⟩)

end SalesLedger.Storage.Store
