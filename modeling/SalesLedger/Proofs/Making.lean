import SalesLedger.Proofs.Lasting

/-!
# Ledgers can be read once they are made

A ledger that was made can be read from then on, with sales or without, whatever was done meanwhile:
`columns_ne_nil_of_made`. The invariant is `IsMade`: the ledger is reachable and its table is there.
Nothing that the store does takes a table off the disk (`isGrowth_keepsTables`).

* `isMade_of_ensureLedger`: a ledger is made where making it ended well.
* `isMade_after`: it stays so along a run.
-/

namespace SalesLedger

open Storage Sql Ledger

variable {config : Config} {d d' : Disk} {t : Tenant}

/-! ## Tables that stay -/

namespace Storage

/-- The tables of a disk are there on a later one, whatever is in them by then. -/
structure Disk.KeepsTables (d d' : Disk) : Prop where
  tables : ∀ p name, (d.table? p name).isSome = true → (d'.table? p name).isSome = true

theorem Disk.SameTables.keepsTables (h : d.SameTables d') : d.KeepsTables d' :=
  ⟨fun p name hsome => by rwa [h.tables]⟩

/-- **Nothing that the store does takes a table off the disk.** -/
theorem isGrowth_keepsTables : IsGrowth Disk.KeepsTables where
  refl d := (Disk.SameTables.refl d).keepsTables
  trans h h' := ⟨fun p name hsome => h'.tables p name (h.tables p name hsome)⟩
  tried d := d.sameTables_tried.keepsTables
  put hp hn := (Disk.sameTables_put hp hn).keepsTables
  facing d outages := (d.sameTables_facing outages).keepsTables
  ensureTable {d d' h u} hmade := by
    refine ⟨fun p name hsome => ?_⟩
    rcases (Store.table?_of_ensureTable hmade).2 p name with hsame | ⟨-, -, -, hmade⟩
    · rwa [hsame]
    · rw [hmade]
      rfl
  insertInto {d d' h actions name rows} hmade := by
    obtain ⟨q, u, x, -, -, -, -, htables⟩ := Store.table?_of_insertInto hmade
    refine ⟨fun p other hsome => ?_⟩
    rw [htables]
    split
    · rfl
    · exact hsome

namespace Store

/-! ## Ledgers that are made -/

/-- A tenant's ledger is reachable, and it has its table. -/
structure IsMade (config : Config) (d : Disk) (t : Tenant) : Prop extends
    IsReachable config d t where
  table : (d.table? (Path.place d.working (ledgerPath config t)) Ledger.table).isSome = true

theorem IsMade.keep (h : IsMade config d t) (hkeep : d.Keeps d') (htables : d.KeepsTables d') :
    IsMade config d' t := by
  refine ⟨h.toIsReachable.keep hkeep, ?_⟩
  rw [hkeep.working]
  exact htables.tables _ _ h.table

/-- A table that was made is where the database was opened. -/
theorem isSome_of_ensureTable {h : Handle} {u : Table} {p : Place} (hp : h.place? = some p)
    (hmade : ensureTable d h u = .ok d') : (d'.table? p u.name).isSome = true := by
  obtain ⟨db, hdb, hrest⟩ := bind_eq_ok_iff.1 hmade
  have hdb' := database_of_place? hdb hp
  split at hrest
  · rename_i hsome
    obtain rfl := Except.ok.inj hrest
    rwa [Disk.table?_of_database hdb']
  · obtain ⟨hnone, -⟩ | ⟨q, hq, rfl⟩ := Handle.write_spec hrest
    · rw [hp] at hnone
      cases hnone
    · obtain rfl : p = q := Option.some.inj (hp.symm.trans hq)
      rw [Disk.table?_put_database (Disk.ne_nil_of_database hdb'), if_pos rfl,
        Database.table?_append, Database.table?_cons, if_pos (Text.equalAscii_refl _)]
      simp

/-- **A ledger is made** where making it ended well. -/
theorem isMade_of_ensureLedger (hdir : config.HasPlainDirectory)
    (hworking : d.isDirectory d.working = true) (h : ensureLedger config d t = (.ok (), d')) :
    IsMade config d' t := by
  obtain ⟨q, hwalk, hdirectory⟩ := walk_of_ensureLedger hworking h
  unfold ensureLedger at h
  split at h
  · cases (Prod.mk.inj h).1
  · rename_i made _
    split at h
    · cases (Prod.mk.inj h).1
    · rename_i handle opened hopen
      split at h
      · cases (Prod.mk.inj h).1
      · rename_i hmade
        obtain rfl := (Prod.mk.inj h).2
        obtain ⟨hsame, hplace⟩ := Handle.ofText_spec hopen
        rw [placeOf?_ledgerPath hdir made.working t] at hplace
        obtain ⟨hbarred, hreach⟩ := Handle.ofText_ledgerPath_ok hdir (by decide) hopen
        have htable := isSome_of_ensureTable hplace hmade
        have hworking' : _ = made.working :=
          (table?_of_ensureTable hmade).1.trans hsame.working
        rw [← hworking'] at hbarred hreach htable
        have hreached := walk_ledgerPath hwalk hdirectory (t := t) ?_
        · exact ⟨⟨hreached, Handle.isBarred_of_walk hbarred hreached, hreach⟩, htable⟩
        · -- where a table is, something stands
          rw [Disk.table?] at htable
          split at htable
          · rename_i hnode
            rw [hnode]
            rfl
          · cases htable

/-- What is read of a ledger that is made. -/
theorem columns_ne_nil_of_isMade (hdir : config.HasPlainDirectory) (hpath : HasShortPath config t)
    (h : IsMade config d t) (hrefuses : d.refuses = false) {sales : List Sale}
    (hheld : heldLedger config d t = ofSales sales) : (schema config d t).columns ≠ [] := by
  obtain ⟨u, hu⟩ := Option.isSome_iff_exists.1 h.table
  have hsales : u = ofSales sales :=
    (tableAt_of_table? emptyLedger (placeOf?_ledgerPath hdir d.working t) hu).symm.trans hheld
  rw [hsales] at hu
  exact columns_ne_nil_of_table? hdir hpath h.toIsReachable hrefuses hu

end Store

end Storage

/-! ## Runs -/

namespace History

/-- A ledger that is made stays so along a run. -/
theorem isMade_after (h : Store.IsMade config d t) (steps : List Step) :
    Store.IsMade config (after config d steps) t :=
  h.keep (grows_after isGrowth_keeps config d steps)
    (grows_after isGrowth_keepsTables config d steps)

/-- Where making a ledger was answered well, the ledger is made. -/
theorem isMade_of_mem (hdir : config.HasPlainDirectory) (hworking : d.isDirectory d.working = true)
    {steps : List Step} (hmade : (.ensureTenant t, .ok .done) ∈ history config d steps) :
    Store.IsMade config (after config d steps) t := by
  induction steps generalizing d with
  | nil => cases hmade
  | cons s steps ih =>
    have hkeep := keeps_step config d s
    rcases List.mem_cons.1 hmade with hfirst | hlater
    · obtain ⟨hoperation, hanswer⟩ := Prod.mk.inj hfirst
      have hstep : s.perform config d =
          ((Store.ensureLedger config (d.facing s.outages) t).map (Except.map fun _ => .done)
            fun d => d.facing []) := by
        unfold Step.perform
        rw [← hoperation]
        rfl
      obtain ⟨answer, d', hr⟩ : ∃ answer d',
          Store.ensureLedger config (d.facing s.outages) t = (answer, d') := ⟨_, _, rfl⟩
      rw [hstep, hr] at hanswer
      cases answer with
      | error f => cases hanswer
      | ok _ =>
        have hworking' : (d.facing s.outages).isDirectory (d.facing s.outages).working = true :=
          hworking
        have hfirst := Store.isMade_of_ensureLedger hdir hworking' hr
        have hsettled := hfirst.keep (d'.keeps_facing []) (isGrowth_keepsTables.facing d' [])
        rw [after, List.foldl_cons, hstep, hr]
        exact isMade_after hsettled steps
    · refine ih ?_ hlater
      rw [hkeep.working]
      exact hkeep.isDirectory hworking

/-- **A ledger that was made can be read**, after any run from a disk without ledgers. -/
theorem columns_ne_nil_of_made {d₀ : Disk} (h : Begins config d₀)
    (hworking : d₀.isDirectory d₀.working = true) {steps : List Step}
    (hpath : Store.HasShortPath config t)
    (hmade : (.ensureTenant t, .ok .done) ∈ history config d₀ steps) :
    (Store.schema config (after config d₀ steps) t).columns ≠ [] := by
  obtain ⟨landed, -, -, hheld⟩ := exists_landed h steps
  have hsteps : steps ≠ [] := by
    rintro rfl
    cases hmade
  exact Store.columns_ne_nil_of_isMade h.directory hpath (isMade_of_mem h.directory hworking hmade)
    (refuses_after hsteps) (hheld t)

end History

end SalesLedger
