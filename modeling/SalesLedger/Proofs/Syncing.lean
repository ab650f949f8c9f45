import SalesLedger.Proofs.Roots

/-!
# Syncing to the master ledger

Below a root, whether the master ledger's file can be opened is a matter of the paths alone as long
as nothing is refused (`Disk.IsCalm`): it can be opened on one disk if it can on another
(`Disk.CanOpenMaster.congr`). Where it can, the master ledger takes every batch that it has numbers
for: `appendToMaster_ok`.
-/

namespace SalesLedger.Storage

open Sql Ledger

/-- No try is refused any more. -/
def Disk.IsCalm (d : Disk) : Prop := true ∉ d.outages

instance (d : Disk) : Decidable d.IsCalm := inferInstanceAs (Decidable (true ∉ d.outages))

namespace Disk.IsCalm

variable {d : Disk} (h : d.IsCalm)

include h

theorem refuses : d.refuses = false := by
  unfold IsCalm at h
  unfold Disk.refuses
  cases houtages : d.outages with
  | nil => rfl
  | cons refused rest =>
    rw [houtages] at h
    cases refused with
    | true => simp at h
    | false => rfl

theorem tried : d.tried.IsCalm := fun hmem => h (List.mem_of_mem_tail hmem)

theorem put (p : Place) (n : Node) : (d.put p n).IsCalm := h

end Disk.IsCalm

/-! ## What a calm disk does -/

section

variable {d : Disk} {p : Place} {db : Database} (hcalm : d.IsCalm)

include hcalm

theorem Handle.openAt_of_calm (hne : p ≠ []) (hnear : isOutOfReach p = false)
    (hnode : d.node? p = none ∨ ∃ db, d.node? p = some (.database db))
    (habove : d.isDirectory p.dropLast = true) (path : String) :
    ∃ d' db, openAt d p .create path = .ok d' ∧ d'.IsCalm ∧ d'.database p = .ok db := by
  unfold openAt
  rw [if_neg (by simp [hnear, hcalm.refuses])]
  rcases hnode with hnone | ⟨db, hdb⟩
  · refine ⟨d.tried.put p (.database []), [], ?_, hcalm.tried.put _ _, ?_⟩
    · simp [hnone, habove]
    · simp [Disk.database, Disk.node?_put_self hne]
  · refine ⟨d.tried, db, ?_, hcalm.tried, ?_⟩
    · simp [hdb]
    · simp [Disk.database, hdb]

theorem Handle.write_of_calm (hjournal : lacksJournal p = false) (db : Database) :
    (⟨some p, true⟩ : Handle).write d db = .ok (d.tried.put p (.database db)) := by
  simp [write, hjournal, hcalm.refuses]

namespace Store

variable (hjournal : Handle.lacksJournal p = false) (hdb : d.database p = .ok db)

include hjournal hdb

theorem ensureTable_of_calm (t : Table) :
    ∃ d' db', ensureTable d ⟨some p, true⟩ t = .ok d' ∧ d'.IsCalm ∧ d'.database p = .ok db' ∧
      (db'.table? t.name).isSome = true := by
  have hne := Disk.ne_nil_of_database hdb
  have hread : (⟨some p, true⟩ : Handle).database d = .ok db := hdb
  unfold ensureTable
  rw [hread]
  simp only [bind, Except.bind]
  split
  · exact ⟨d, db, rfl, hcalm, hdb, by assumption⟩
  · refine ⟨_, db ++ [t], Handle.write_of_calm hcalm hjournal _, hcalm.tried.put _ _, ?_, ?_⟩
    · simp [Disk.database, Disk.node?_put_self hne]
    · rw [Database.table?_append, Database.table?_cons, if_pos (Text.equalAscii_refl _)]
      simp

theorem insertInto_of_calm {table : String} {u : Table} {x : Transaction}
    {rows : List (List (String × Cell))} (hu : db.table? table = some u)
    (hx : (Transaction.start u).insertAll rows = .ok x) (hmissing : x.missing = 0)
    (actions : Actions) : ∃ d', insertInto d ⟨some p, true⟩ actions table rows = .ok d' := by
  have hread : (⟨some p, true⟩ : Handle).database d = .ok db := hdb
  have hrows : insertRows db table rows = .ok x := by
    rw [insertRows, hu]
    exact hx
  have hrefuses : (d.tried.put p (.database (db.put x.table))).refuses = false :=
    (hcalm.tried.put _ _).refuses
  refine ⟨(d.tried.put p (.database (db.put x.table))).tried, ?_⟩
  simp [insertInto, hread, hrows, Handle.write_of_calm hcalm hjournal,
    Transaction.commit_of_nothing_missing hmissing, Handle.settle, hrefuses, during, bind,
    Except.bind]

end Store

end

/-! ## The master ledger -/

variable {root : String} {d d' : Disk}

/-- What of the paths decides whether the master ledger can be opened below a root. -/
structure Disk.CanOpenMaster (root : String) (d : Disk) : Prop where
  short : (Path.above (Config.rootedAt root).masterPath).utf8ByteSize ≤ Path.longestPath
  free : Handle.isBarred d (Path.start d.working (Config.rootedAt root).masterPath)
    (Path.names (Config.rootedAt root).masterPath) = false
  near : Handle.isOutOfReach (Root.master root d.working) = false

namespace Disk.CanOpenMaster

theorem of_ensureMaster (h : d.IsRooted root)
    (hok : (Store.ensureMaster (.rootedAt root) d).1 = .ok ()) : d.CanOpenMaster root := by
  unfold Store.ensureMaster at hok
  rw [h.makeDirectories_aboveMaster] at hok
  by_cases hlong :
      Path.longestPath < (Path.above (Config.rootedAt root).masterPath).utf8ByteSize
  · rw [if_pos hlong] at hok
    cases hok
  rw [if_neg hlong] at hok
  dsimp only at hok
  split at hok
  · cases hok
  · rename_i hopen
    obtain ⟨-, hbarred, hat⟩ := Handle.eq_of_ofText (h.ofText_masterPath .create)
      Disk.IsRooted.isTransient_masterPath hopen
    exact ⟨Nat.not_lt.1 hlong, hbarred, Root.place_masterPath ▸ Handle.isOutOfReach_of_openAt hat⟩

theorem congr (hopen : d.CanOpenMaster root) (h : d.IsRooted root) (h' : d'.IsRooted root)
    (hworking : d'.working = d.working) : d'.CanOpenMaster root := by
  refine ⟨hopen.short, ?_, hworking ▸ hopen.near⟩
  have hfree := hopen.free
  have hway := h'.way
  have hdirectory := h'.directory
  rw [hworking] at hway hdirectory ⊢
  rw [Config.rootedAt, Path.names_join _ (by decide) (by decide),
    Path.start_join _ _ (by decide)] at hfree ⊢
  rw [Disk.isBarred_congr h.way h.directory hway hdirectory]
  exact hfree

theorem ofText_ok (hopen : d.CanOpenMaster root) (h : d.IsRooted root) (hcalm : d.IsCalm) :
    ∃ e db, Handle.ofText d .create (Config.rootedAt root).masterPath =
        .ok (⟨some (Root.master root d.working), true⟩, e) ∧ e.IsCalm ∧
      e.database (Root.master root d.working) = .ok db := by
  obtain ⟨e, db, hat, he, hdb⟩ := Handle.openAt_of_calm hcalm (by simp [Root.master]) hopen.near
    h.master (by rw [Root.dropLast_master]; exact h.directory) (Config.rootedAt root).masterPath
  refine ⟨e, db, ?_, he, hdb⟩
  rw [Handle.ofText_of_plain d (h.ofText_masterPath .create) Disk.IsRooted.isTransient_masterPath,
    hopen.free, Root.place_masterPath, hat]
  rfl

theorem lacksJournal_master (working : Place) :
    Handle.lacksJournal (Root.master root working) = false := by
  have hshort : Path.isTooLong (Config.usualMasterPath ++ Handle.journalEnding) = false := by
    decide +kernel
  simp [Handle.lacksJournal, Root.master, hshort]

/-- **The master ledger is made** where nothing is refused and its file can be opened. -/
theorem ensureMaster_ok (hopen : d.CanOpenMaster root) (h : d.IsRooted root) (hcalm : d.IsCalm) :
    ∃ e db, Store.ensureMaster (.rootedAt root) d = (.ok (), e) ∧ e.IsCalm ∧
      e.database (Root.master root d.working) = .ok db ∧
      (db.table? masterTable).isSome = true := by
  obtain ⟨opened, db, hopened, hcalm', hdb⟩ := hopen.ofText_ok h hcalm
  obtain ⟨e, db', hmade, he, hdb', htable⟩ :=
    Store.ensureTable_of_calm hcalm' (lacksJournal_master _) hdb emptyMaster
  refine ⟨e, db', ?_, he, hdb', htable⟩
  unfold Store.ensureMaster
  rw [h.makeDirectories_aboveMaster, if_neg (Nat.not_lt.2 hopen.short)]
  simp only [hopened, hmade]

end Disk.CanOpenMaster

theorem placeOf?_masterPath (h : d.IsRooted root) (working : Place) :
    placeOf? working (Config.rootedAt root).masterPath = some (Root.master root working) := by
  unfold placeOf?
  rw [h.ofText_masterPath]
  dsimp only
  rw [Disk.IsRooted.isTransient_masterPath, if_neg Bool.false_ne_true, Root.place_masterPath]

/-- **The master ledger takes a batch** where nothing is refused, its file can be opened, and it has
numbers for the sales. -/
theorem Store.appendToMaster_ok (hopen : d.CanOpenMaster root) (h : d.IsRooted root)
    (hcalm : d.IsCalm) {ledgers : Tenant → List Sale} {master : List Entry}
    (hheld : Holds (.rootedAt root) d ledgers master) {sales : List Sale}
    (hroom : master.length + sales.length ≤ mostEntries) (t : Tenant) :
    (appendToMaster (.rootedAt root) d t sales).1 = .ok () := by
  obtain ⟨e, db, hmade, he, hdb, htable⟩ := hopen.ensureMaster_ok h hcalm
  have hkeep := keeps_ensureMaster (.rootedAt root) d
  have hfills := h.fills_ensureMaster
  have hheld' := holds_ensureMaster hheld
  rw [hmade] at hkeep hfills hheld'
  have he' : e.IsRooted root := h.of_fills_master hkeep hfills
  rw [← hkeep.working] at hdb
  obtain ⟨opened, db', hopened, hcalm', hdb'⟩ :=
    (hopen.congr h he' hkeep.working).ofText_ok he' he
  -- the table that was made, or was there, is that of the entries, and opening it changes nothing
  obtain ⟨u, hu⟩ := Option.isSome_iff_exists.1 htable
  have hat : e.table? (Root.master root e.working) masterTable = some u :=
    (Disk.table?_of_database hdb masterTable).trans hu
  have hu' : db'.table? masterTable = some u := by
    rw [← Disk.table?_of_database hdb', (Handle.ofText_spec hopened).1.tables, hat]
  have hentries : u = ofEntries master := by
    rw [← hheld'.master, heldMaster]
    exact (tableAt_of_table? emptyMaster (placeOf?_masterPath h e.working) hat).symm
  obtain ⟨x, hx⟩ := insertAll_ofEntries_of_room (t := t) (x := Transaction.start u) hentries hroom
  have hmissing := (insertAll_ofEntries (x := Transaction.start u) hentries hx).2
  obtain ⟨after, hafter⟩ := insertInto_of_calm hcalm'
    (Disk.CanOpenMaster.lacksJournal_master e.working) hdb' hu' hx hmissing masterActions
  unfold appendToMaster insertAt
  rw [hmade]
  simp only [hopened, hafter]

end SalesLedger.Storage
