import Mathlib.Data.List.Basic
import Mathlib.Data.List.Flatten
import SalesLedger.History
import SalesLedger.Proofs.Appending

/-!
# Ledgers along a run

What the ledgers hold after any operations of any tenants, where any try to open or to write a file
may have been refused. The invariant is `Store.Holds`: `moved_step` says how one step moves it, and
`moved_after` how a run does, by induction on the steps. From a disk without ledgers this gives
`run_tallied`:

* a tenant's ledger is made of whole batches in the order of the calls, every batch among them that
  was answered well;
* the master ledger is made of exactly those that were answered well, each sale with its tenant;
* what the master ledger has of a tenant is part of the tenant's ledger, and all of it where no call
  failed;
* nothing that is written ever changes.
-/

namespace SalesLedger.History

open Storage Sql Ledger

/-! ## What an event records -/

/-- Whether a call was answered well. -/
def Event.succeeded (e : Event) : Bool :=
  match e.2 with
  | .ok _ => true
  | .error _ => false

/-- The batch that a call records for a tenant. -/
def Event.batch (t : Tenant) (e : Event) : List Sale :=
  match e.1 with
  | .record s sales => if s = t then sales else []
  | _ => []

/-- The entries that a call has for the master ledger. -/
def Event.entries (e : Event) : List Entry :=
  match e.1 with
  | .record t sales => sales.map (t, ·)
  | _ => []

/-- Whether a call records for a tenant. -/
def Event.recordsFor (t : Tenant) (e : Event) : Prop :=
  ∃ sales, e.1 = .record t sales

theorem Event.batch_of_not_recordsFor {t : Tenant} {e : Event} (h : ¬ e.recordsFor t) :
    e.batch t = [] := by
  obtain ⟨operation, answer⟩ := e
  cases operation with
  | record s sales =>
    by_cases hs : s = t
    · subst hs
      exact absurd ⟨sales, rfl⟩ h
    · exact if_neg hs
  | _ => rfl

/-- The entries of one tenant are the tenant's batch. -/
theorem Event.entries_of_tenant (t : Tenant) (e : Event) :
    (e.entries.filter fun entry => entry.1 = t).map Prod.snd = e.batch t := by
  obtain ⟨operation, answer⟩ := e
  cases operation with
  | record s sales =>
    show ((sales.map (s, ·)).filter fun entry => entry.1 = t).map Prod.snd =
      if s = t then sales else []
    by_cases hs : s = t
    · subst hs
      rw [List.filter_eq_self.2 (by simp), List.map_map, if_pos rfl]
      exact List.map_id sales
    · rw [List.filter_eq_nil_iff.2 (by simp [hs]), if_neg hs, List.map_nil]
  | _ => rfl

/-! ## Runs -/

variable {config : Config} {d : Disk} {ledgers : Tenant → List Sale} {master : List Entry}

/-- The sales of the tenants with the batches of some events. -/
def withBatches (ledgers : Tenant → List Sale) (landed : List Event) : Tenant → List Sale :=
  fun t => ledgers t ++ landed.flatMap (Event.batch t)

theorem withBatches_nil (ledgers : Tenant → List Sale) : withBatches ledgers [] = ledgers := by
  funext t
  exact List.append_nil _

theorem withBatches_append (ledgers : Tenant → List Sale) (landed more : List Event) :
    withBatches ledgers (landed ++ more) = withBatches (withBatches ledgers landed) more := by
  funext t
  simp only [withBatches, List.flatMap_append, List.append_assoc]

theorem withBatches_record (ledgers : Tenant → List Sale) (t : Tenant) (sales : List Sale)
    (answer : Except Failure Answer) :
    withBatches ledgers [(.record t sales, answer)] = Store.addTo ledgers t sales := by
  funext s
  by_cases hs : s = t
  · subst hs
    simp [withBatches, Event.batch]
  · rw [Store.addTo_of_ne hs]
    simp [withBatches, Event.batch, Ne.symm hs]

theorem withBatches_of_entries_nil (ledgers : Tenant → List Sale) {e : Event}
    (h : ∀ t, e.batch t = []) : withBatches ledgers [e] = ledgers := by
  funext t
  simp [withBatches, h t]

/-- What a run of events did to the sales that were held: batches landed as a whole or not at all,
those of calls that were answered well did, and only these are in the master ledger. -/
def Moved (config : Config) (d : Disk) (ledgers : Tenant → List Sale) (master : List Entry)
    (events : List Event) : Prop :=
  ∃ landed, (events.filter Event.succeeded).Sublist landed ∧ landed.Sublist events ∧
    Store.Holds config d (withBatches ledgers landed)
      (master ++ (events.filter Event.succeeded).flatMap Event.entries)

theorem moved_nil (hd : Store.Holds config d ledgers master) :
    Moved config d ledgers master [] := by
  refine ⟨[], .refl _, .refl _, ?_⟩
  rw [withBatches_nil, List.filter_nil, List.flatMap_nil, List.append_nil]
  exact hd

/-- An event that records nothing moves nothing. -/
theorem moved_of_quiet {e : Event} (hbatch : ∀ t, e.batch t = []) (hentries : e.entries = [])
    (hd : Store.Holds config d ledgers master) : Moved config d ledgers master [e] := by
  have hnone : ([e].filter Event.succeeded).flatMap Event.entries = [] := by
    rw [List.flatMap_eq_nil_iff]
    intro e' he'
    obtain rfl : e' = e := List.mem_singleton.1 (List.mem_filter.1 he').1
    exact hentries
  refine ⟨[e], List.filter_sublist, .refl _, ?_⟩
  rw [withBatches_of_entries_nil ledgers hbatch, hnone, List.append_nil]
  exact hd

theorem Moved.append {d' : Disk} {events more : List Event}
    (h : Moved config d ledgers master events)
    (h' : ∀ ledgers master, Store.Holds config d ledgers master →
      Moved config d' ledgers master more) :
    Moved config d' ledgers master (events ++ more) := by
  obtain ⟨landed, hok, hlanded, hheld⟩ := h
  obtain ⟨rest, hoks, hrest, hheld'⟩ := h' _ _ hheld
  refine ⟨landed ++ rest, ?_, hlanded.append hrest, ?_⟩
  · rw [List.filter_append]
    exact hok.append hoks
  · rw [withBatches_append, List.filter_append, List.flatMap_append, ← List.append_assoc]
    exact hheld'

/-- A call that was answered well has one more batch for the master ledger, another call none. -/
theorem flatMap_entries_singleton (e : Event) :
    ([e].filter Event.succeeded).flatMap Event.entries =
      if e.succeeded then e.entries else [] := by
  rw [List.filter_cons, List.filter_nil]
  split
  · rw [List.flatMap_singleton]
  · rfl

/-- **A recorded batch** lands in both ledgers, in the tenant's alone, or nowhere. -/
theorem moved_record (hdir : config.HasPlainDirectory) (hd : Store.Holds config d ledgers master)
    (t : Tenant) (sales : List Sale) :
    Moved config (Store.append config d t sales).2 ledgers master
      [(.record t sales, (Store.append config d t sales).1.map .recorded)] := by
  obtain ⟨r, d', hr⟩ : ∃ r d', Store.append config d t sales = (r, d') := ⟨_, _, rfl⟩
  rw [hr]
  rcases Store.append_cases hdir hd hr with
    ⟨f, rfl, -, hheld⟩ | ⟨f, rfl, -, hheld⟩ | ⟨rfl, hheld⟩
  · refine ⟨[], .refl _, List.nil_sublist _, ?_⟩
    rw [withBatches_nil, flatMap_entries_singleton, if_neg (by exact Bool.false_ne_true),
      List.append_nil]
    exact hheld
  · refine ⟨_, List.nil_sublist _, .refl _, ?_⟩
    rw [withBatches_record, flatMap_entries_singleton, if_neg (by exact Bool.false_ne_true),
      List.append_nil]
    exact hheld
  · refine ⟨_, List.filter_sublist, .refl _, ?_⟩
    rw [withBatches_record, flatMap_entries_singleton, if_pos (by rfl)]
    exact hheld

/-- **What one operation does to the sales that are held.** -/
theorem moved_perform (hdir : config.HasPlainDirectory) (hd : Store.Holds config d ledgers master)
    (o : Operation) :
    Moved config (o.perform config d).2 ledgers master [(o, (o.perform config d).1)] := by
  cases o with
  | ensureTenant t =>
    refine moved_of_quiet (fun _ => rfl) rfl ?_
    rw [Operation.perform, Prod.map_snd, id]
    exact Store.holds_ensureLedger hd t
  | ensureMaster =>
    refine moved_of_quiet (fun _ => rfl) rfl ?_
    rw [Operation.perform, Prod.map_snd, id]
    exact Store.holds_ensureMaster hd
  | record t sales =>
    rw [Operation.perform, Prod.map_snd, Prod.map_fst, id]
    exact moved_record hdir hd t sales
  | columns t => exact moved_of_quiet (fun _ => rfl) rfl hd
  | compile t today p shape => exact moved_of_quiet (fun _ => rfl) rfl hd
  | query t s => exact moved_of_quiet (fun _ => rfl) rfl hd
  | analysis t today p => exact moved_of_quiet (fun _ => rfl) rfl hd
  | chart t today p => exact moved_of_quiet (fun _ => rfl) rfl hd
  | summary t => exact moved_of_quiet (fun _ => rfl) rfl hd
  | trend t today => exact moved_of_quiet (fun _ => rfl) rfl hd
  | inventory t => exact moved_of_quiet (fun _ => rfl) rfl hd
  | recent t => exact moved_of_quiet (fun _ => rfl) rfl hd
  | ask t today planner generator question => exact moved_of_quiet (fun _ => rfl) rfl hd

theorem Moved.facing {events : List Event} (h : Moved config d ledgers master events)
    (outages : List Bool) : Moved config (d.facing outages) ledgers master events := by
  obtain ⟨landed, hok, hlanded, hheld⟩ := h
  exact ⟨landed, hok, hlanded, hheld.of_sameTables (d.sameTables_facing outages)⟩

/-- **What one step does to the sales that are held**, whatever is refused meanwhile. -/
theorem moved_step (hdir : config.HasPlainDirectory) (hd : Store.Holds config d ledgers master)
    (s : Step) :
    Moved config (s.perform config d).2 ledgers master
      [(s.operation, (s.perform config d).1)] := by
  have hfacing := hd.of_sameTables (d.sameTables_facing s.outages)
  have hperform := moved_perform hdir hfacing s.operation
  unfold Step.perform
  exact hperform.facing []

/-- **What a run does to the sales that are held**, step by step. -/
theorem moved_after (hdir : config.HasPlainDirectory) (hd : Store.Holds config d ledgers master)
    (steps : List Step) :
    Moved config (after config d steps) ledgers master (history config d steps) := by
  induction steps generalizing d ledgers master with
  | nil => exact moved_nil hd
  | cons s steps ih =>
    have hstep := moved_step hdir hd s
    exact hstep.append fun _ _ hheld => ih hheld

/-! ## Runs from the start -/

/-- Nothing was recorded yet: no tables where the ledgers will be. The directory of the tenants'
ledgers is a path. -/
structure Begins (config : Config) (d : Disk) : Prop where
  directory : config.HasPlainDirectory
  ledger : ∀ t, Store.heldLedger config d t = emptyLedger
  master : Store.heldMaster config d = emptyMaster

theorem Begins.holds (h : Begins config d) : Store.Holds config d (fun _ => []) [] :=
  ⟨h.ledger, h.master⟩

theorem tableAt_of_no_tables (h : ∀ p name, d.table? p name = none) (path : String)
    (fresh : Table) : Store.tableAt d path fresh = fresh := by
  unfold Store.tableAt
  cases placeOf? d.working path with
  | none => rfl
  | some p => rw [Option.bind_some, h, Option.getD_none]

theorem table?_empty (working p : Place) (name : String) :
    (Disk.empty working).table? p name = none := by
  have hnode : ∀ n, (Disk.empty working).node? p = some n → n = .directory := by
    intro n hn
    unfold Disk.node? at hn
    split at hn
    · exact (Option.some.inj hn).symm
    · obtain ⟨before, after, hnodes, -⟩ := List.lookup_eq_some_iff.1 hn
      have hmem : (p, n) ∈ (Disk.empty working).nodes := by
        rw [hnodes]
        simp
      obtain ⟨i, -, hi⟩ := List.mem_map.1 hmem
      exact (congrArg Prod.snd hi).symm
  unfold Disk.table?
  split
  · rename_i heq
    cases hnode _ heq
  · rfl

/-- Everything begins with an empty disk. -/
theorem begins_empty (hdir : config.HasPlainDirectory) (working : Place) :
    Begins config (Disk.empty working) :=
  ⟨hdir, fun _ => tableAt_of_no_tables (table?_empty working) _ _,
    tableAt_of_no_tables (table?_empty working) _ _⟩

/-- What the master ledger has of a tenant, without numbers and tenant. -/
def ofTenant (t : Tenant) (master : Table) : List (List Cell) :=
  (master.rows.filter fun r => r.cell 1 = .text t.id).map fun r => r.cells.drop 2

theorem ofTenant_ofEntries (t : Tenant) (entries : List Entry) :
    ofTenant t (ofEntries entries) =
      ((entries.filter fun e => e.1 = t).map Prod.snd).map Sale.cells := by
  induction entries using List.reverseRecOn with
  | nil => rfl
  | append_singleton entries e ih =>
    have hlast : ofTenant t (ofEntries (entries ++ [e])) =
        ofTenant t (ofEntries entries) ++ if e.1 = t then [e.2.cells] else [] := by
      rw [ofEntries_concat]
      simp only [ofTenant, List.filter_append, List.map_append, List.filter_cons, List.filter_nil]
      congr 1
      have hid : (Row.cell ⟨entries.length + 1, entryCells (entries.length + 1) e⟩ 1 =
          .text t.id) = (e.1 = t) := by
        show (Cell.text e.1.id = .text t.id) = _
        rw [Cell.text.injEq, eq_iff_iff]
        exact ⟨Tenant.id_injective, congrArg _⟩
      simp only [hid]
      by_cases he : e.1 = t <;> simp [he, cells_of_entry]
    rw [hlast, ih, List.filter_append, List.map_append, List.map_append]
    congr 1
    by_cases he : e.1 = t <;> simp [he]

/-- **How the ledgers stand after a run**, told from the calls and their answers alone. -/
structure IsTallied (config : Config) (d : Disk) (events : List Event) : Prop where
  /-- A ledger has whole batches in the order of the calls, all that were answered well too. -/
  ledgers : ∃ landed, (events.filter Event.succeeded).Sublist landed ∧ landed.Sublist events ∧
    ∀ t, Store.heldLedger config d t = ofSales (landed.flatMap (Event.batch t))
  /-- The master ledger has what was answered well, numbered from one on. -/
  master : Store.heldMaster config d =
    ofEntries ((events.filter Event.succeeded).flatMap Event.entries)
  /-- The master ledger's rows of a tenant are rows of the tenant's ledger, in their order. -/
  mirrored : ∀ t, (ofTenant t (Store.heldMaster config d)).Sublist
    ((Store.heldLedger config d t).rows.map Row.cells)
  /-- They are all of its rows, where no call for the tenant failed. -/
  complete : ∀ t, (∀ e ∈ events, e.recordsFor t → e.succeeded = true) →
    ofTenant t (Store.heldMaster config d) = (Store.heldLedger config d t).rows.map Row.cells

theorem filter_flatMap_entries (t : Tenant) (events : List Event) :
    ((events.flatMap Event.entries).filter fun entry => entry.1 = t).map Prod.snd =
      events.flatMap (Event.batch t) := by
  induction events with
  | nil => rfl
  | cons e events ih =>
    rw [List.flatMap_cons, List.flatMap_cons, List.filter_append, List.map_append,
      Event.entries_of_tenant, ih]

theorem ofTenant_events (t : Tenant) (events : List Event) :
    ofTenant t (ofEntries (events.flatMap Event.entries)) =
      (events.flatMap (Event.batch t)).map Sale.cells := by
  rw [ofTenant_ofEntries, filter_flatMap_entries]

/-- What landed for a tenant without failed calls is what was answered well. -/
theorem flatMap_batch_of_complete {t : Tenant} {events landed : List Event}
    (hok : (events.filter Event.succeeded).Sublist landed) (hlanded : landed.Sublist events)
    (hall : ∀ e ∈ events, e.recordsFor t → e.succeeded = true) :
    landed.flatMap (Event.batch t) = (events.filter Event.succeeded).flatMap (Event.batch t) := by
  have hevents : events.flatMap (Event.batch t) =
      (events.filter Event.succeeded).flatMap (Event.batch t) := by
    clear hok hlanded
    induction events with
    | nil => rfl
    | cons e events ih =>
      have hrest := ih fun e' he' => hall e' (List.mem_cons_of_mem _ he')
      rw [List.flatMap_cons, hrest, List.filter_cons]
      split
      · rw [List.flatMap_cons]
      · rename_i hfailed
        rw [Event.batch_of_not_recordsFor fun h => hfailed (hall e List.mem_cons_self h),
          List.nil_append]
  refine List.Sublist.antisymm ?_ (hok.flatMap _)
  rw [← hevents]
  exact hlanded.flatMap _

/-- Where no call fails, all of it landed. -/
theorem eq_of_succeeded {events landed : List Event}
    (hok : (events.filter Event.succeeded).Sublist landed) (hlanded : landed.Sublist events)
    (hall : events.all Event.succeeded = true) : landed = events := by
  rw [List.filter_eq_self.2 (List.all_eq_true.1 hall)] at hok
  exact hlanded.antisymm hok

theorem isTallied_of_moved {events : List Event}
    (h : Moved config d (fun _ => []) [] events) : IsTallied config d events := by
  obtain ⟨landed, hok, hlanded, hheld⟩ := h
  have hledger : ∀ t, Store.heldLedger config d t = ofSales (landed.flatMap (Event.batch t)) :=
    hheld.ledger
  have hmaster : Store.heldMaster config d =
      ofEntries ((events.filter Event.succeeded).flatMap Event.entries) := hheld.master
  refine ⟨⟨landed, hok, hlanded, hledger⟩, hmaster, fun t => ?_, fun t hall => ?_⟩
  · rw [hmaster, hledger, ofTenant_events, cells_ofSales]
    exact (hok.flatMap _).map _
  · rw [hmaster, hledger, ofTenant_events, cells_ofSales,
      flatMap_batch_of_complete hok hlanded hall]

/-- The batches that make up the ledgers after a run. -/
theorem exists_landed (h : Begins config d) (steps : List Step) :
    ∃ landed, ((history config d steps).filter Event.succeeded).Sublist landed ∧
      landed.Sublist (history config d steps) ∧
      ∀ t, Store.heldLedger config (after config d steps) t =
        ofSales (landed.flatMap (Event.batch t)) := by
  obtain ⟨landed, hok, hlanded, hheld⟩ := moved_after h.directory h.holds steps
  exact ⟨landed, hok, hlanded, hheld.ledger⟩

/-! ## What stays -/

/-- No row of a ledger is gone or changed, and new ones come last. -/
structure Grows (config : Config) (d d' : Disk) : Prop where
  ledger : ∀ t, (Store.heldLedger config d t).rows <+: (Store.heldLedger config d' t).rows
  master : (Store.heldMaster config d).rows <+: (Store.heldMaster config d').rows

theorem rows_prefix_ofSales (sales more : List Sale) :
    (ofSales sales).rows <+: (ofSales (sales ++ more)).rows := by
  simp only [ofSales, List.mapIdx_append]
  exact List.prefix_append _ _

theorem rows_prefix_ofEntries (entries more : List Entry) :
    (ofEntries entries).rows <+: (ofEntries (entries ++ more)).rows := by
  simp only [ofEntries, List.mapIdx_append]
  exact List.prefix_append _ _

theorem Moved.grows {d' : Disk} {events : List Event} (hd : Store.Holds config d ledgers master)
    (h : Moved config d' ledgers master events) : Grows config d d' := by
  obtain ⟨landed, -, -, hheld⟩ := h
  refine ⟨fun t => ?_, ?_⟩
  · rw [hd.ledger, hheld.ledger]
    exact rows_prefix_ofSales _ _
  · rw [hd.master, hheld.master]
    exact rows_prefix_ofEntries _ _

/-- **The ledgers along a run.** However the operations of the tenants follow each other, and
whatever tries to open or to write a file are refused, the ledgers stand as the calls and their
answers tell, and what they have stays. -/
theorem run_tallied (h : Begins config d) (steps : List Step) :
    IsTallied config (after config d steps) (history config d steps) ∧
      ∀ more, Grows config (after config d steps) (after config d (steps ++ more)) := by
  have hmoved := moved_after h.directory h.holds steps
  refine ⟨isTallied_of_moved hmoved, fun more => ?_⟩
  obtain ⟨landed, -, -, hheld⟩ := hmoved
  rw [after_append]
  exact (moved_after h.directory hheld more).grows hheld

/-- Ledgers below a directory of a disk that is empty otherwise. -/
def shop : Config := .rootedAt "/srv"
def blank : Disk := .empty ["srv"]

/-- A vendor who sells rice. -/
def vendor : Tenant := ⟨"9800000001", by decide +kernel⟩
def rice : Sale := ⟨"Rice", 100, 50, 5, ⟨2025, 1, 10, by decide⟩, by decide, by decide⟩

/-- On an empty disk, the master ledger is made and then locked by somebody else. -/
def masterLocked : List Bool := List.replicate 8 false ++ [true]

theorem begins_blank : Begins shop blank :=
  begins_empty (by unfold Config.HasPlainDirectory; decide +kernel) ["srv"]

/-- The same call twice, of which the first fails. -/
def twice : List Step :=
  [⟨.record vendor [rice], masterLocked⟩, ⟨.record vendor [rice], []⟩]

theorem run_tallied_twice :
    Begins shop blank ∧
      (history shop blank twice).map Event.succeeded = [false, true] ∧
      IsTallied shop (after shop blank twice) (history shop blank twice) ∧
      ∀ more, Grows shop (after shop blank twice) (after shop blank (twice ++ more)) :=
  ⟨begins_blank, by decide +kernel, run_tallied begins_blank twice⟩

end SalesLedger.History
