import SalesLedger.Proofs.LedgerReading
import SalesLedger.Proofs.Reaching
import SalesLedger.Proofs.Runs

/-!
# Ledgers can be read when they have sales

Whatever operations were carried out, and whatever tries were refused meanwhile, a ledger that has
sales can be read afterwards: `columns_ne_nil_after`. The invariant is `AreReachable`: a ledger is
made reachable before anything is written to it, and no operation takes anything off the disk
(`keeps_step`).

* `grows_after`: what minds nothing the store does minds no run either.
* `IsKept`: a property that is kept where no sale changes and where sales are written; a run keeps it
  (`IsKept.after`).
* `openLedger_of_isReachable`: what is reachable is opened to be read.
-/

namespace SalesLedger

open Storage Sql Ledger

variable {config : Config} {d d' : Disk} {t : Tenant}

/-! ## Readers -/

namespace Storage.Store

/-- The ledgers' paths are no longer than the system takes. -/
def HasShortPath (config : Config) (t : Tenant) : Prop :=
  (ledgerPath config t).utf8ByteSize ≤ Path.longestPath

theorem openLedger_of_isReachable (hdir : config.HasPlainDirectory) (hpath : HasShortPath config t)
    (h : IsReachable config d t) (hrefuses : d.refuses = false) {db : Database}
    (hnode : d.node? (Path.place d.working (ledgerPath config t)) = some (.database db))
    (action : String) : openLedger config d t action = .ok db := by
  have hexists : d.exists? (ledgerPath config t) = true := by
    unfold Disk.exists? Disk.find
    rw [if_neg (ledgerPath_ne_empty t), if_neg (Nat.not_lt.2 hpath), h.walk]
  have hopen : Handle.ofText d .readOnly (ledgerPath config t) =
      .ok (⟨some (Path.place d.working (ledgerPath config t)), false⟩, d.tried) := by
    have hat : Handle.openAt d (Path.place d.working (ledgerPath config t)) .readOnly
        (ledgerPath config t) = .ok d.tried := by
      unfold Handle.openAt
      rw [if_neg (by simp [h.isOutOfReach, hrefuses]), hnode]
    rw [Handle.ofText_of_plain d (ofText_ledgerPath hdir t .readOnly)
      (isTransient_ledgerPath t (by decide) false), h.isBarred, hat]
    rfl
  unfold openLedger
  dsimp only
  rw [if_pos hexists, hopen]
  dsimp only
  rw [Handle.database]
  dsimp only
  rw [Disk.database, hnode]

theorem table?_of_sales (hdir : config.HasPlainDirectory) {sales : List Sale} (hsales : sales ≠ [])
    (hheld : heldLedger config d t = ofSales sales) :
    d.table? (Path.place d.working (ledgerPath config t)) Ledger.table = some (ofSales sales) := by
  unfold heldLedger tableAt at hheld
  rw [placeOf?_ledgerPath hdir, Option.bind_some] at hheld
  cases htable : d.table? (Path.place d.working (ledgerPath config t)) emptyLedger.name with
  | none =>
    rw [htable] at hheld
    have hcells := cells_ofSales sales
    rw [← hheld] at hcells
    exact absurd (List.map_eq_nil_iff.1 hcells.symm) hsales
  | some u =>
    rw [htable] at hheld
    exact htable.trans (congrArg some hheld)

/-- A reachable ledger that has its table can be read. -/
theorem columns_ne_nil_of_table? (hdir : config.HasPlainDirectory) (hpath : HasShortPath config t)
    (h : IsReachable config d t) (hrefuses : d.refuses = false) {sales : List Sale}
    (htable : d.table? (Path.place d.working (ledgerPath config t)) Ledger.table =
      some (ofSales sales)) : (schema config d t).columns ≠ [] := by
  unfold Disk.table? at htable
  split at htable
  · rename_i db hnode
    unfold schema columns
    rw [openLedger_of_isReachable hdir hpath h hrefuses hnode]
    simp only [bind, Except.bind, htable, pure, Except.pure, Option.map_some, Option.getD_some,
      givenColumns_ofSales]
    decide
  · cases htable

/-- A reachable ledger that has sales can be read. -/
theorem columns_ne_nil_of_isReachable (hdir : config.HasPlainDirectory)
    (hpath : HasShortPath config t) (h : IsReachable config d t) (hrefuses : d.refuses = false)
    {sales : List Sale} (hsales : sales ≠ []) (hheld : heldLedger config d t = ofSales sales) :
    (schema config d t).columns ≠ [] :=
  columns_ne_nil_of_table? hdir hpath h hrefuses (table?_of_sales hdir hsales hheld)

end Storage.Store

/-! ## Runs -/

namespace History

section Growth

variable {R : Disk → Disk → Prop} (hR : IsGrowth R)

include hR

theorem grows_perform (config : Config) (d : Disk) (o : Operation) :
    R d (o.perform config d).2 := by
  cases o with
  | ensureTenant t =>
    rw [Operation.perform, Prod.map_snd, id]
    exact hR.ensureLedger config d t
  | ensureMaster =>
    rw [Operation.perform, Prod.map_snd, id]
    exact hR.ensureMaster config d
  | record t sales =>
    rw [Operation.perform, Prod.map_snd, id]
    exact hR.append config d t sales
  | _ => exact hR.refl d

theorem grows_step (config : Config) (d : Disk) (s : Step) : R d (s.perform config d).2 :=
  hR.trans (hR.facing d s.outages) (hR.trans (grows_perform hR config _ s.operation) (hR.facing _ []))

/-- **A disk grows along a run.** -/
theorem grows_after (config : Config) (d : Disk) (steps : List Step) :
    R d (after config d steps) := by
  induction steps generalizing d with
  | nil => exact hR.refl d
  | cons s steps ih => exact hR.trans (grows_step hR config d s) (ih _)

end Growth

/-- **No operation takes anything off the disk.** -/
theorem keeps_perform (config : Config) (d : Disk) (o : Operation) :
    d.Keeps (o.perform config d).2 := grows_perform isGrowth_keeps config d o

theorem keeps_step (config : Config) (d : Disk) (s : Step) : d.Keeps (s.perform config d).2 :=
  grows_step isGrowth_keeps config d s

variable {ledgers : Tenant → List Sale} {master master' : List Entry}

/-! ### What a run keeps -/

/-- A property of disks that is kept where no sale changes and nothing is taken off the disk, and
where sales are written to a ledger. -/
structure IsKept (config : Config) (I : Disk → Prop) : Prop where
  quiet {d d' : Disk} {ledgers : Tenant → List Sale} {master master' : List Entry}
    (hd : Store.Holds config d ledgers master) (hd' : Store.Holds config d' ledgers master')
    (hkeep : d.Keeps d') (h : I d) : I d'
  write {d : Disk} {ledgers : Tenant → List Sale} {master : List Entry}
    (hd : Store.Holds config d ledgers master) (h : I d) (t : Tenant) (sales : List Sale) :
    I (Store.appendToLedger config d t sales).2

namespace IsKept

variable {I : Disk → Prop} (hI : IsKept config I) (hdir : config.HasPlainDirectory)

include hI hdir

theorem append (hd : Store.Holds config d ledgers master) (h : I d) (t : Tenant)
    (sales : List Sale) : I (Store.append config d t sales).2 := by
  have hledger := hI.write hd h t sales
  unfold Store.append
  split
  · exact h
  · split
    · rename_i heq
      rwa [heq] at hledger
    · rename_i made heq
      rw [heq] at hledger
      have hkeep := Store.keeps_appendToMaster config made t sales
      obtain ⟨r, synced, hr⟩ :
        ∃ r synced, Store.appendToMaster config made t sales = (r, synced) :=
          ⟨_, _, (Prod.eta _).symm⟩
      rw [hr] at hkeep ⊢
      have hmaster : I synced := by
        rcases Store.appendToLedger_cases hdir hd heq with ⟨f, hfailed, -⟩ | ⟨-, hheld⟩
        · cases hfailed
        · rcases Store.appendToMaster_cases hheld hr with ⟨f, -, hheld'⟩ | ⟨-, hheld'⟩
          · exact hI.quiet hheld hheld' hkeep hledger
          · exact hI.quiet hheld hheld' hkeep hledger
      cases r with
      | error f => exact hmaster
      | ok u => exact hmaster

/-- **One operation keeps it.** -/
theorem perform (hd : Store.Holds config d ledgers master) (h : I d) (o : Operation) :
    I (o.perform config d).2 := by
  have hkeep := keeps_perform config d o
  cases o with
  | ensureTenant t =>
    rw [Operation.perform, Prod.map_snd, id] at hkeep ⊢
    exact hI.quiet hd (Store.holds_ensureLedger hd t) hkeep h
  | ensureMaster =>
    rw [Operation.perform, Prod.map_snd, id] at hkeep ⊢
    exact hI.quiet hd (Store.holds_ensureMaster hd) hkeep h
  | record t sales =>
    rw [Operation.perform, Prod.map_snd, id]
    exact hI.append hdir hd h t sales
  | _ => exact h

theorem step (hd : Store.Holds config d ledgers master) (h : I d) (s : Step) :
    I (s.perform config d).2 := by
  have hfacing := hd.of_sameTables (d.sameTables_facing s.outages)
  have hbefore := hI.quiet hd hfacing (d.keeps_facing s.outages) h
  have hperform := hI.perform hdir hfacing hbefore s.operation
  obtain ⟨landed, -, -, hheld⟩ := moved_perform hdir hfacing s.operation
  exact hI.quiet hheld (hheld.of_sameTables (Disk.sameTables_facing _ []))
    (Disk.keeps_facing _ []) hperform

/-- **A run keeps it.** -/
theorem after (hd : Store.Holds config d ledgers master) (h : I d) (steps : List Step) :
    I (History.after config d steps) := by
  induction steps generalizing d ledgers master with
  | nil => exact h
  | cons s steps ih =>
    obtain ⟨landed, -, -, hheld⟩ := moved_step hdir hd s
    exact ih hheld (hI.step hdir hd h s)

end IsKept

/-! ### Ledgers that can be read -/

/-- Every ledger that has sales is reachable. -/
def AreReachable (config : Config) (d : Disk) : Prop :=
  ∀ t, (Store.heldLedger config d t).rows ≠ [] → Store.IsReachable config d t

/-- **A run keeps every ledger that has sales reachable**, where the working directory is there. -/
theorem isKept_areReachable (hdir : config.HasPlainDirectory) :
    IsKept config fun d => d.isDirectory d.working = true ∧ AreReachable config d where
  quiet {d d' ledgers master master'} hd hd' hkeep h := by
    refine ⟨?_, fun t hsome => ?_⟩
    · rw [hkeep.working]
      exact hkeep.isDirectory h.1
    · rw [hd'.ledger t, ← hd.ledger t] at hsome
      exact (h.2 t hsome).keep hkeep
  write {d ledgers master} hd h t sales := by
    have hkeep := Store.keeps_appendToLedger config d t sales
    obtain ⟨r, d', hr⟩ : ∃ r d', Store.appendToLedger config d t sales = (r, d') := ⟨_, _, rfl⟩
    rw [hr] at hkeep ⊢
    refine ⟨by rw [hkeep.working]; exact hkeep.isDirectory h.1, fun s hsome => ?_⟩
    rcases Store.appendToLedger_cases hdir hd hr with ⟨f, rfl, hheld⟩ | ⟨rfl, hheld⟩
    · rw [hheld.ledger s, ← hd.ledger s] at hsome
      exact (h.2 s hsome).keep hkeep
    · by_cases hs : s = t
      · -- the ledger that was written to becomes reachable, the others stay so
        subst hs
        exact Store.isReachable_of_appendToLedger hdir h.1 hr
      · rw [hheld.ledger s, Store.addTo_of_ne hs, ← hd.ledger s] at hsome
        exact (h.2 s hsome).keep hkeep

/-- After a step nothing more is refused. -/
theorem refuses_after {steps : List Step} (hsteps : steps ≠ []) :
    (after config d steps).refuses = false := by
  obtain ⟨before, s, rfl⟩ := (List.eq_nil_or_concat' steps).resolve_left hsteps
  rw [after_append]
  rfl

/-- **A ledger that has sales can be read**, after any run from a disk without ledgers. -/
theorem columns_ne_nil_after {d₀ : Disk} (h : Begins config d₀)
    (hworking : d₀.isDirectory d₀.working = true) (steps : List Step)
    (hpath : Store.HasShortPath config t) {sales : List Sale} (hsales : sales ≠ [])
    (hheld : Store.heldLedger config (after config d₀ steps) t = ofSales sales) :
    (Store.schema config (after config d₀ steps) t).columns ≠ [] := by
  have hreach := ((isKept_areReachable h.directory).after h.directory h.holds
    ⟨hworking, fun t hsome => absurd (by rw [h.ledger t]; rfl) hsome⟩ steps).2
  have hrows : (Store.heldLedger config (after config d₀ steps) t).rows ≠ [] := by
    intro hnone
    have hcells := cells_ofSales sales
    rw [← hheld, hnone] at hcells
    exact hsales (List.map_eq_nil_iff.1 hcells.symm)
  -- no step, no sales; and after a step nothing is refused to a reader
  have hsteps : steps ≠ [] := by
    rintro rfl
    exact hrows (by rw [show after config d₀ [] = d₀ from rfl, h.ledger t]; rfl)
  exact Store.columns_ne_nil_of_isReachable h.directory hpath (hreach t hrows)
    (refuses_after hsteps) hsales hheld

/-- What has landed after a run is what a tenant's ledger holds, and a ledger that cannot be read
then has no sales. -/
theorem exists_readable {d₀ : Disk} (h : Begins config d₀)
    (hworking : d₀.isDirectory d₀.working = true) (steps : List Step)
    (hpath : Store.HasShortPath config t) :
    ∃ landed, ((history config d₀ steps).filter Event.succeeded).Sublist landed ∧
      landed.Sublist (history config d₀ steps) ∧
      Store.heldLedger config (after config d₀ steps) t =
        ofSales (landed.flatMap (Event.batch t)) ∧
      ((Store.schema config (after config d₀ steps) t).columns = [] →
        landed.flatMap (Event.batch t) = []) := by
  obtain ⟨landed, hok, hlanded, hheld⟩ := exists_landed h steps
  refine ⟨landed, hok, hlanded, hheld t, fun hcolumns => ?_⟩
  by_contra hsales
  exact columns_ne_nil_after h hworking steps hpath hsales (hheld t) hcolumns

theorem hasShortPath_vendor : Store.HasShortPath shop vendor := by
  unfold Store.HasShortPath
  decide

end History

end SalesLedger
