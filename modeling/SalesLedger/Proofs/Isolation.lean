import Mathlib.Algebra.GroupWithZero.Nat
import SalesLedger.Proofs.Neighbours
import SalesLedger.Proofs.Runs
import SalesLedger.Proofs.Syncing

/-!
# Tenants are isolated

What a tenant is answered, and what the tenant's ledger holds, does not depend on what other tenants
do: `tenants_isolated`. A run and the same run without the steps of some tenants are followed side by
side. Between them stands the invariant `Alongside`: the two disks agree on the ledgers of the
tenants that are kept, and the master ledgers have numbers for the sales to come. A step of a tenant
that is left out moves the first disk alone (`Alongside.skip`), another step moves both and is
answered alike (`Alongside.step`).

The master ledger is shared. Nothing is read from it, but a batch that it does not take makes the
call fail. So it has to be such that it can be opened when a batch comes to it (`OpensMaster`), and
there have to be numbers for all sales of the run, of which there are `mostEntries`.
-/

namespace SalesLedger.History

open Storage Sql Ledger

/-! ## Whose operations -/

namespace Operation

/-- The tenant that an operation is for. Making the master ledger is for nobody. -/
def tenant? : Operation → Option Tenant
  | ensureTenant t => some t
  | ensureMaster => none
  | record t _ => some t
  | columns t => some t
  | compile t _ _ _ => some t
  | query t _ => some t
  | analysis t _ _ => some t
  | chart t _ _ => some t
  | summary t => some t
  | trend t _ => some t
  | inventory t => some t
  | recent t => some t
  | ask t _ _ _ _ => some t

/-- Whether an operation is for one of some tenants. -/
def isFor (keep : Tenant → Bool) (o : Operation) : Bool :=
  o.tenant?.any keep

/-- Whether an operation only reads. -/
def reads : Operation → Bool
  | ensureTenant _ => false
  | ensureMaster => false
  | record _ _ => false
  | _ => true

def sales : Operation → List Sale
  | record _ sales => sales
  | _ => []

theorem perform_of_reads (config : Config) (d : Disk) {o : Operation} (h : o.reads = true) :
    (o.perform config d).2 = d := by
  cases o with
  | ensureTenant t => cases h
  | ensureMaster => cases h
  | record t sales => cases h
  | _ => rfl

end Operation

/-! ## What is read -/

section

variable {config : Config} {d d' : Disk} {t : Tenant}
  (hexists : Store.ledgerExists config d' t = Store.ledgerExists config d t)
  (hopen : ∀ action, Store.openLedger config d' t action = Store.openLedger config d t action)

include hopen

theorem columns_of_alike : Store.columns config d' t = Store.columns config d t := by
  rw [Store.columns, Store.columns, hopen]

theorem compile_of_alike (today : Calendar.Date) (p : ParameterSet) (shape : Query.Shape) :
    Service.compile config d' today t p shape = Service.compile config d today t p shape := by
  rw [Service.compile, Service.compile, Store.schema, Store.schema, columns_of_alike hopen]

theorem query_of_alike (s : Select) : Store.query config d' t s = Store.query config d t s := by
  rw [Store.query, Store.query, hopen]

theorem rows_of_alike (s : Select) : Store.rows config d' t s = Store.rows config d t s := by
  rw [Store.rows, Store.rows, query_of_alike hopen]

include hexists

theorem fetch_of_alike (today : Calendar.Date) (p : ParameterSet) (shape : Query.Shape) :
    Service.fetch config d' today t p shape = Service.fetch config d today t p shape := by
  simp only [Service.fetch, hexists, compile_of_alike hopen, rows_of_alike hopen]

/-- **Everything that is read of a ledger** is told from opening it. -/
theorem answer_of_alike {o : Operation} (ho : o.tenant? = some t) (hreads : o.reads = true) :
    (o.perform config d').1 = (o.perform config d).1 := by
  have hanalysis : ∀ today p, Service.analysis config d' today t p =
      Service.analysis config d today t p := fun today p =>
    fetch_of_alike hexists hopen today p .lenient
  cases o with
  | ensureTenant s => cases hreads
  | ensureMaster => cases hreads
  | record s sales => cases hreads
  | columns s =>
    obtain rfl := Option.some.inj ho
    simp only [Operation.perform, columns_of_alike hopen]
  | compile s today p shape =>
    obtain rfl := Option.some.inj ho
    simp only [Operation.perform, compile_of_alike hopen]
  | query s q =>
    obtain rfl := Option.some.inj ho
    simp only [Operation.perform, query_of_alike hopen]
  | analysis s today p =>
    obtain rfl := Option.some.inj ho
    simp only [Operation.perform, hanalysis]
  | chart s today p =>
    obtain rfl := Option.some.inj ho
    simp only [Operation.perform, Service.chart, fetch_of_alike hexists hopen]
  | summary s =>
    obtain rfl := Option.some.inj ho
    simp only [Operation.perform, Dashboard.summary, hexists, rows_of_alike hopen]
  | trend s today =>
    obtain rfl := Option.some.inj ho
    simp only [Operation.perform, Dashboard.trend, hexists, rows_of_alike hopen]
  | inventory s =>
    obtain rfl := Option.some.inj ho
    simp only [Operation.perform, Dashboard.inventory, hexists, rows_of_alike hopen]
  | recent s =>
    obtain rfl := Option.some.inj ho
    simp only [Operation.perform, Dashboard.recent, hexists, rows_of_alike hopen]
  | ask s today planner generator question =>
    obtain rfl := Option.some.inj ho
    simp only [Operation.perform, Insight.ask, Insight.gather, Insight.dataFor, hexists, hanalysis]

end

/-! ## Room in the master ledger -/

/-- The master ledger has numbers for so many more entries. -/
def HasRoom (config : Config) (d : Disk) (count : Nat) : Prop :=
  ∃ ledgers master, Store.Holds config d ledgers master ∧ master.length + count ≤ mostEntries

namespace HasRoom

variable {config : Config} {d : Disk} {count : Nat}

theorem facing (h : HasRoom config d count) (outages : List Bool) :
    HasRoom config (d.facing outages) count := by
  obtain ⟨ledgers, master, hheld, hroom⟩ := h
  exact ⟨ledgers, master, hheld.of_sameTables (d.sameTables_facing outages), hroom⟩

theorem mono {fewer : Nat} (h : HasRoom config d count) (hfewer : fewer ≤ count) :
    HasRoom config d fewer := by
  obtain ⟨ledgers, master, hheld, hroom⟩ := h
  exact ⟨ledgers, master, hheld, by omega⟩

/-- A ledger's sales take no room in the master ledger. -/
theorem appendToLedger (hdir : config.HasPlainDirectory) (h : HasRoom config d count) (t : Tenant)
    (sales : List Sale) : HasRoom config (Store.appendToLedger config d t sales).2 count := by
  obtain ⟨ledgers, master, hheld, hroom⟩ := h
  obtain ⟨r, d', hr⟩ : ∃ r d', Store.appendToLedger config d t sales = (r, d') := ⟨_, _, rfl⟩
  rw [hr]
  rcases Store.appendToLedger_cases hdir hheld hr with ⟨f, -, hheld'⟩ | ⟨-, hheld'⟩
  · exact ⟨ledgers, master, hheld', hroom⟩
  · exact ⟨_, master, hheld', hroom⟩

/-- A step takes room for its own sales at most. -/
theorem step (hdir : config.HasPlainDirectory) {s : Step}
    (h : HasRoom config d (s.operation.sales.length + count)) :
    HasRoom config (s.perform config d).2 count := by
  obtain ⟨ledgers, master, hheld, hroom⟩ := h
  obtain ⟨landed, -, -, hheld'⟩ := moved_step hdir hheld s
  refine ⟨_, _, hheld', ?_⟩
  have hentries : ∀ answer, (Event.entries (s.operation, answer)).length =
      s.operation.sales.length := by
    intro answer
    cases s.operation with
    | record t sales => exact List.length_map _
    | _ => rfl
  rw [flatMap_entries_singleton, List.length_append]
  split
  · rw [hentries]
    omega
  · rw [List.length_nil]
    omega

end HasRoom

/-! ## The master ledger can be opened -/

/-- Once a batch is in a tenant's ledger, the master ledger can be opened for it, and none of the
tries that this takes is refused. -/
def Operation.OpensMaster (config : Config) (d : Disk) : Operation → Prop
  | .record t sales =>
    sales ≠ [] → (Store.appendToLedger config d t sales).1 = .ok () →
      (Store.appendToLedger config d t sales).2.IsCalm ∧
        (Store.ensureMaster config (Store.appendToLedger config d t sales).2).1 = .ok ()
  | _ => True

/-- The master ledger can be opened throughout a run. -/
def OpensMaster (config : Config) (d : Disk) : List Step → Prop
  | [] => True
  | s :: steps =>
    s.operation.OpensMaster config (d.facing s.outages) ∧
      OpensMaster config (s.perform config d).2 steps

/-! ## Two disks side by side -/

variable {root : String} {d d' : Disk} {keep : Tenant → Bool}

/-- The places of some tenants' ledgers. -/
def ledgersOf (root : String) (working : Place) (keep : Tenant → Bool) : Set Place :=
  {p | ∃ t, keep t = true ∧ p = Root.ledger root working t}

theorem mem_ledgersOf {t : Tenant} (ht : keep t = true) (working : Place) :
    Root.ledger root working t ∈ ledgersOf root working keep := ⟨t, ht, rfl⟩

/-- What leaves some ledgers alone on both disks leaves the disks alike. -/
theorem alike_of_spares {e e' : Disk}
    (hd : (d.facing []).Alike (ledgersOf root d.working keep) (d'.facing []))
    (h : Disk.Spares root (keep · = true) d e) (h' : Disk.Spares root (keep · = true) d' e') :
    (e.facing []).Alike (ledgersOf root d.working keep) (e'.facing []) := by
  have hworking : d'.working = d.working := hd.working
  refine ⟨?_, rfl, ?_⟩
  · show e'.working = e.working
    rw [h.working, h'.working, hworking]
  · rintro _ ⟨t, ht, rfl⟩
    have hledger := h.ledger t ht
    have hledger' := h'.ledger t ht
    rw [hworking] at hledger'
    rw [Disk.node?_facing, Disk.node?_facing, hledger, hledger']
    exact hd.nodes _ (mem_ledgersOf ht d.working)

/-- The second stage ends well on both disks and touches no tenant's ledger. -/
theorem appendToMaster_alike (h : d.IsRooted root) (h' : d'.IsRooted root)
    (hd : d.Alike (ledgersOf root d.working keep) d') (hcalm : d.IsCalm)
    (hopens : (Store.ensureMaster (.rootedAt root) d).1 = .ok ()) {sales : List Sale}
    (hroom : HasRoom (.rootedAt root) d sales.length)
    (hroom' : HasRoom (.rootedAt root) d' sales.length) (t : Tenant) :
    ∃ e e', Store.appendToMaster (.rootedAt root) d t sales = (.ok (), e) ∧
      Store.appendToMaster (.rootedAt root) d' t sales = (.ok (), e') ∧
      (e.facing []).Alike (ledgersOf root d.working keep) (e'.facing []) := by
  have hcalm' : d'.IsCalm := by
    unfold Disk.IsCalm
    rw [hd.outages]
    exact hcalm
  have hopen := Disk.CanOpenMaster.of_ensureMaster h hopens
  have hopen' := hopen.congr h h' hd.working
  obtain ⟨ledgers, master, hheld, hcount⟩ := hroom
  obtain ⟨ledgers', master', hheld', hcount'⟩ := hroom'
  have hsynced := Store.appendToMaster_ok hopen h hcalm hheld hcount t
  have hsynced' := Store.appendToMaster_ok hopen' h' hcalm' hheld' hcount' t
  have halike := alike_of_spares (hd.facing [])
    ((Store.spares_appendToMaster h t sales).mono fun _ _ => trivial)
    ((Store.spares_appendToMaster h' t sales).mono fun _ _ => trivial)
  generalize Store.appendToMaster (.rootedAt root) d t sales = o at *
  generalize Store.appendToMaster (.rootedAt root) d' t sales = o' at *
  obtain ⟨answer, e⟩ := o
  obtain ⟨answer', e'⟩ := o'
  obtain rfl : answer = .ok () := hsynced
  obtain rfl : answer' = .ok () := hsynced'
  exact ⟨e, e', rfl, rfl, halike⟩

/-- A batch is recorded alike, where the master ledger can be opened. -/
theorem append_alike (h : d.IsRooted root) (h' : d'.IsRooted root)
    (hd : d.Alike (ledgersOf root d.working keep) d') {t : Tenant} (ht : keep t = true)
    {sales : List Sale} (hroom : HasRoom (.rootedAt root) d sales.length)
    (hroom' : HasRoom (.rootedAt root) d' sales.length)
    (hmaster : (Operation.record t sales).OpensMaster (.rootedAt root) d) :
    (Store.append (.rootedAt root) d' t sales).1 = (Store.append (.rootedAt root) d t sales).1 ∧
      ((Store.append (.rootedAt root) d t sales).2.facing []).Alike
        (ledgersOf root d.working keep)
        ((Store.append (.rootedAt root) d' t sales).2.facing []) := by
  by_cases hempty : sales = []
  · subst hempty
    exact ⟨rfl, hd.facing []⟩
  have hnot : sales.isEmpty = false := by simpa using hempty
  replace hmaster := hmaster hempty
  obtain ⟨hanswer, hmade⟩ :=
    Store.appendToLedger_agrees h h' hd (mem_ledgersOf ht d.working) sales
  have hspares := Store.spares_appendToLedger h t sales
  have hspares' := Store.spares_appendToLedger h' t sales
  replace hroom := hroom.appendToLedger h.hasPlainDirectory t sales
  replace hroom' := hroom'.appendToLedger h'.hasPlainDirectory t sales
  unfold Store.append
  simp only [hnot, Bool.false_eq_true, if_false]
  generalize Store.appendToLedger (.rootedAt root) d t sales = o at *
  generalize Store.appendToLedger (.rootedAt root) d' t sales = o' at *
  obtain ⟨answer, e⟩ := o
  obtain ⟨answer', e'⟩ := o'
  obtain rfl : answer = answer' := hanswer.symm
  cases answer with
  | error f => exact ⟨rfl, hmade.facing []⟩
  | ok _ =>
    obtain ⟨hcalm, hopens⟩ := hmaster rfl
    have hworking : e.working = d.working := hspares.working
    rw [← hworking] at hmade ⊢
    obtain ⟨synced, synced', hx, hy, hsynced⟩ := appendToMaster_alike hspares.rooted
      hspares'.rooted hmade hcalm hopens hroom hroom' t
    simp only [hx, hy]
    exact ⟨trivial, hsynced⟩

/-- **An operation of a tenant that is kept** is answered alike, whether it reads or writes. -/
theorem perform_alike (h : d.IsRooted root) (h' : d'.IsRooted root)
    (hd : d.Alike (ledgersOf root d.working keep) d') {o : Operation}
    (ho : o.isFor keep = true) (hroom : HasRoom (.rootedAt root) d o.sales.length)
    (hroom' : HasRoom (.rootedAt root) d' o.sales.length)
    (hmaster : o.OpensMaster (.rootedAt root) d) :
    (o.perform (.rootedAt root) d').1 = (o.perform (.rootedAt root) d).1 ∧
      ((o.perform (.rootedAt root) d).2.facing []).Alike (ledgersOf root d.working keep)
        ((o.perform (.rootedAt root) d').2.facing []) := by
  obtain ⟨t, htenant, ht⟩ := (Option.any_eq_true _ _).1 ho
  have hmem : Root.ledger root d.working t ∈ ledgersOf root d.working keep :=
    mem_ledgersOf ht d.working
  by_cases hreads : o.reads = true
  · have hexists := Store.ledgerExists_alike h h' hd hmem
    have hopen := Store.openLedger_alike h h' hd hmem
    rw [Operation.perform_of_reads _ _ hreads, Operation.perform_of_reads _ _ hreads]
    exact ⟨answer_of_alike hexists hopen htenant hreads, hd.facing []⟩
  · cases o with
    | ensureTenant u =>
      obtain rfl := Option.some.inj htenant
      obtain ⟨hanswer, hmade⟩ := Store.ensureLedger_agrees h h' hd hmem
      simp only [Operation.perform, Prod.map_fst, Prod.map_snd, id]
      exact ⟨congrArg _ hanswer, hmade.facing []⟩
    | ensureMaster => cases htenant
    | record u sales =>
      obtain rfl := Option.some.inj htenant
      obtain ⟨hanswer, hafter⟩ := append_alike h h' hd ht hroom hroom' hmaster
      simp only [Operation.perform, Prod.map_fst, Prod.map_snd, id]
      exact ⟨congrArg _ hanswer, hafter⟩
    | _ => exact absurd rfl hreads

/-- Two disks below one root that agree on the ledgers of some tenants, the master ledgers with room
for some more sales. -/
structure Alongside (root : String) (keep : Tenant → Bool) (d d' : Disk) (count : Nat) : Prop where
  rooted : d.IsRooted root
  rooted' : d'.IsRooted root
  alike : (d.facing []).Alike (ledgersOf root d.working keep) (d'.facing [])
  room : HasRoom (.rootedAt root) d count
  room' : HasRoom (.rootedAt root) d' count

/-- No operation touches the ledgers of tenants that it is not for. -/
theorem spares_perform (h : d.IsRooted root) (o : Operation) :
    Disk.Spares root (fun t => o.tenant? ≠ some t) d (o.perform (.rootedAt root) d).2 := by
  cases o with
  | ensureTenant t =>
    rw [Operation.perform, Prod.map_snd, id]
    refine (Store.spares_ensureLedger h t).mono fun s hs => ?_
    rintro rfl
    exact hs rfl
  | ensureMaster =>
    rw [Operation.perform, Prod.map_snd, id]
    exact (Store.spares_ensureMaster h).mono fun _ _ => trivial
  | record t sales =>
    rw [Operation.perform, Prod.map_snd, id]
    refine (Store.spares_append h t sales).mono fun s hs => ?_
    rintro rfl
    exact hs rfl
  | _ => exact .refl h

theorem spares_step (h : d.IsRooted root) (s : Step) :
    Disk.Spares root (fun t => s.operation.tenant? ≠ some t) d
      (s.perform (.rootedAt root) d).2 := by
  have hperform := spares_perform (h.facing s.outages) s.operation
  exact ⟨hperform.rooted.facing [], hperform.working, hperform.ledger⟩

namespace Alongside

variable {count : Nat} {s : Step}

/-- **A step that is left out** moves the first disk alone. -/
theorem skip (h : Alongside root keep d d' (s.operation.sales.length + count))
    (hs : s.operation.isFor keep = false) :
    Alongside root keep (s.perform (.rootedAt root) d).2 d' count := by
  have hspares := spares_step h.rooted s
  have hkept : Disk.Spares root (keep · = true) d (s.perform (.rootedAt root) d).2 := by
    refine hspares.mono fun t ht heq => ?_
    simp [Operation.isFor, heq, ht] at hs
  have halike := alike_of_spares h.alike hkept (.refl h.rooted')
  rw [← hspares.working] at halike
  exact ⟨hspares.rooted, h.rooted', halike, h.room.step h.rooted.hasPlainDirectory,
    h.room'.mono (by omega)⟩

/-- **A step of a tenant that is kept** moves both disks and is answered alike. -/
theorem step (h : Alongside root keep d d' (s.operation.sales.length + count))
    (hs : s.operation.isFor keep = true)
    (hmaster : s.operation.OpensMaster (.rootedAt root) (d.facing s.outages)) :
    (s.perform (.rootedAt root) d').1 = (s.perform (.rootedAt root) d).1 ∧
      Alongside root keep (s.perform (.rootedAt root) d).2 (s.perform (.rootedAt root) d').2
        count := by
  have hspares := spares_step h.rooted s
  have hspares' := spares_step h.rooted' s
  have hroom := (h.room.mono (Nat.le_add_right _ _)).facing s.outages
  have hroom' := (h.room'.mono (Nat.le_add_right _ _)).facing s.outages
  obtain ⟨hanswer, halike⟩ := perform_alike (h.rooted.facing s.outages)
    (h.rooted'.facing s.outages) (h.alike.facing s.outages) hs hroom hroom' hmaster
  refine ⟨hanswer, hspares.rooted, hspares'.rooted, ?_,
    h.room.step h.rooted.hasPlainDirectory, h.room'.step h.rooted'.hasPlainDirectory⟩
  rw [hspares.working]
  exact halike

end Alongside

/-! ## Runs -/

/-- How many sales the steps of a run record at most. -/
def salesCount (steps : List Step) : Nat :=
  (steps.map fun s => s.operation.sales.length).sum

/-- **A run without the steps of some tenants** goes along with the whole run: the steps that are
left are answered alike, and the ledgers of the tenants that are kept stand alike afterwards. -/
theorem Alongside.run {steps : List Step} (h : Alongside root keep d d' (salesCount steps))
    (hmaster : OpensMaster (.rootedAt root) d steps) :
    history (.rootedAt root) d' (steps.filter fun s => s.operation.isFor keep) =
        (history (.rootedAt root) d steps).filter (fun e => e.1.isFor keep) ∧
      Alongside root keep (after (.rootedAt root) d steps)
        (after (.rootedAt root) d' (steps.filter fun s => s.operation.isFor keep)) 0 := by
  induction steps generalizing d d' with
  | nil => exact ⟨rfl, h⟩
  | cons s steps ih =>
    rw [salesCount, List.map_cons, List.sum_cons] at h
    cases hs : s.operation.isFor keep with
    | true =>
      obtain ⟨hanswer, hnext⟩ := h.step hs hmaster.1
      obtain ⟨hanswers, hlast⟩ := ih hnext hmaster.2
      simp only [List.filter_cons, history, hs, if_true]
      rw [hanswer, hanswers]
      exact ⟨rfl, hlast⟩
    | false =>
      obtain ⟨hanswers, hlast⟩ := ih (h.skip hs) hmaster.2
      simp only [List.filter_cons, history, hs, Bool.false_eq_true, if_false]
      exact ⟨hanswers, hlast⟩

/-- A root below which nothing stands yet. It is a directory that can be gone to, and written as a
path and not as an address. -/
structure IsEmptyRoot (root : String) (d : Disk) : Prop where
  plain : Address.scheme.isPrefixOf (Text.Utf8.toBytes root) = false
  way : d.walk (Path.start d.working root) (Path.names root) = .ok (Path.place d.working root)
  directory : d.isDirectory (Path.place d.working root) = true
  bare : ∀ more, more ≠ [] → d.node? (Path.place d.working root ++ more) = none

namespace IsEmptyRoot

theorem isRooted (h : IsEmptyRoot root d) : d.IsRooted root := by
  refine ⟨h.plain, h.way, h.directory, .inl (h.bare _ (by simp)), fun t hsome => ?_,
    .inl (h.bare _ (by simp))⟩
  rw [Root.ledger, Root.ledgers, List.append_assoc, h.bare _ (by simp)] at hsome
  cases hsome

theorem begins (h : IsEmptyRoot root d) : Begins (.rootedAt root) d := by
  have hrooted := h.isRooted
  refine ⟨hrooted.hasPlainDirectory, fun t => ?_, ?_⟩
  · unfold Store.heldLedger Store.tableAt
    rw [Store.placeOf?_ledgerPath hrooted.hasPlainDirectory, Root.place_ledgerPath,
      Option.bind_some, Disk.table?, Root.ledger, Root.ledgers, List.append_assoc,
      h.bare _ (by simp)]
    rfl
  · unfold Store.heldMaster Store.tableAt
    rw [placeOf?_masterPath hrooted, Option.bind_some, Disk.table?, Root.master,
      h.bare _ (by simp)]
    rfl

theorem alongside (h : IsEmptyRoot root d) (keep : Tenant → Bool) {count : Nat}
    (hcount : count ≤ mostEntries) : Alongside root keep d d count := by
  have hroom : HasRoom (.rootedAt root) d count :=
    ⟨_, [], h.begins.holds, by rwa [List.length_nil, Nat.zero_add]⟩
  exact ⟨h.isRooted, h.isRooted, ⟨rfl, rfl, fun _ _ => rfl⟩, hroom, hroom⟩

end IsEmptyRoot

/-- What is opened to be read cannot be written to, and no file is made. -/
theorem opened_to_read (hplain : Config.HasPlainDirectory (.rootedAt root)) {t : Tenant}
    {handle : Handle}
    (hopen : Handle.ofText d .readOnly (Store.ledgerPath (.rootedAt root) t) = .ok (handle, d')) :
    d'.nodes = d.nodes ∧ ∀ db, handle.write d' db = .error .readOnly := by
  obtain ⟨rfl, -, hat⟩ := Handle.eq_of_ofText (ofText_ledgerPath hplain t .readOnly)
    (isTransient_ledgerPath t (by decide) false) hopen
  refine ⟨?_, fun db => rfl⟩
  unfold Handle.openAt at hat
  split at hat
  · cases hat
  split at hat
  · cases hat
  · obtain rfl := Except.ok.inj hat
    rfl
  · rw [if_neg (by simp)] at hat
    cases hat

/-- What the ledger of a tenant that is kept holds. -/
theorem Alongside.heldLedger {count : Nat} (h : Alongside root keep d d' count) {t : Tenant}
    (ht : keep t = true) :
    d'.node? (d'.place (Store.ledgerPath (.rootedAt root) t)) =
        d.node? (d.place (Store.ledgerPath (.rootedAt root) t)) ∧
      Store.heldLedger (.rootedAt root) d' t = Store.heldLedger (.rootedAt root) d t := by
  have hworking : d'.working = d.working := h.alike.working
  have hnode : d'.node? (Root.ledger root d.working t) = d.node? (Root.ledger root d.working t) :=
    h.alike.nodes _ (mem_ledgersOf ht d.working)
  refine ⟨?_, ?_⟩
  · rw [Disk.place, Disk.place, Root.place_ledgerPath, Root.place_ledgerPath, hworking, hnode]
  · unfold Store.heldLedger Store.tableAt
    rw [Store.placeOf?_ledgerPath h.rooted.hasPlainDirectory,
      Store.placeOf?_ledgerPath h.rooted.hasPlainDirectory, hworking, Root.place_ledgerPath,
      Option.bind_some, Option.bind_some, Disk.table?, Disk.table?, hnode]

/-- **Tenants are isolated.** Take any run from an empty root in which the master ledger can be opened
throughout, and leave out all steps of some tenants. Every step that is left is answered as before,
and the ledgers of the tenants that are left stand as before. And whoever reads, after whatever run,
changes no ledger and makes no file. -/
theorem tenants_isolated (h : IsEmptyRoot root d) {steps : List Step}
    (hmaster : OpensMaster (.rootedAt root) d steps) (hroom : salesCount steps ≤ mostEntries) :
    (∀ keep : Tenant → Bool,
      let fewer := steps.filter fun s => s.operation.isFor keep
      history (.rootedAt root) d fewer =
          (history (.rootedAt root) d steps).filter (fun e => e.1.isFor keep) ∧
        ∀ t, keep t = true →
          let before := after (.rootedAt root) d steps
          let now := after (.rootedAt root) d fewer
          now.node? (now.place (Store.ledgerPath (.rootedAt root) t)) =
              before.node? (before.place (Store.ledgerPath (.rootedAt root) t)) ∧
            Store.heldLedger (.rootedAt root) now t = Store.heldLedger (.rootedAt root) before t) ∧
      (∀ (e : Disk) (o : Operation), o.reads = true → (o.perform (.rootedAt root) e).2 = e) ∧
      ∀ (e e' : Disk) (t : Tenant) (handle : Handle),
        Handle.ofText e .readOnly (Store.ledgerPath (.rootedAt root) t) = .ok (handle, e') →
          e'.nodes = e.nodes ∧ ∀ db, handle.write e' db = .error .readOnly := by
  refine ⟨fun keep => ?_, fun e o ho => Operation.perform_of_reads _ e ho,
    fun e e' t handle hopen => opened_to_read h.isRooted.hasPlainDirectory hopen⟩
  obtain ⟨hanswers, hlast⟩ := (h.alongside keep hroom).run hmaster
  exact ⟨hanswers, fun t ht => hlast.heldLedger ht⟩

/-- Two vendors in turn. A try to open the neighbour's ledger is refused. -/
def neighbour : Tenant := ⟨"9800000002", by decide +kernel⟩
def inTurn : List Step :=
  [⟨.record neighbour [rice], []⟩, ⟨.record vendor [rice], []⟩,
    ⟨.record neighbour [rice, rice], [true]⟩, ⟨.columns vendor, []⟩]

theorem isEmptyRoot_blank : IsEmptyRoot "/srv" blank := by
  have hplace : Path.place blank.working "/srv" = ["srv"] := by decide +kernel
  refine ⟨by decide +kernel, by decide +kernel, by decide +kernel, fun more hmore => ?_⟩
  rw [hplace]
  simp [Disk.node?, blank, Disk.empty, List.range_succ, hmore]

theorem tenants_isolated_inTurn :
    IsEmptyRoot "/srv" blank ∧ OpensMaster shop blank inTurn ∧
      salesCount inTurn ≤ mostEntries ∧
      (history shop blank inTurn).map Event.succeeded = [true, true, false, true] ∧
      (let fewer := inTurn.filter fun s => s.operation.isFor fun t => t = vendor
      fewer.length = 2 ∧
        history shop blank fewer =
          (history shop blank inTurn).filter (fun e => e.1.isFor fun t => t = vendor) ∧
        Store.heldLedger shop (after shop blank fewer) vendor =
          Store.heldLedger shop (after shop blank inTurn) vendor) := by
  have hmaster : OpensMaster shop blank inTurn :=
    ⟨fun _ _ => ⟨by decide +kernel, by decide +kernel⟩,
      fun _ _ => ⟨by decide +kernel, by decide +kernel⟩,
      fun _ hmade => absurd hmade (by decide +kernel), trivial, trivial⟩
  have hroom : salesCount inTurn ≤ mostEntries := by decide +kernel
  obtain ⟨hanswers, hledgers⟩ :=
    (tenants_isolated isEmptyRoot_blank hmaster hroom).1 fun t => t = vendor
  exact ⟨isEmptyRoot_blank, hmaster, hroom, by decide +kernel, by decide +kernel, hanswers,
    (hledgers vendor (by decide +kernel)).2⟩

end SalesLedger.History
