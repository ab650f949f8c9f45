import SalesLedger.History
import SalesLedger.Proofs.Roots

/-!
# Ledgers beside each other

Tenants share the directory of their ledgers and the master ledger. On two disks below one root that
agree on a tenant's ledger, whatever else they hold, the tenant's ledger is read and written alike:

* `openLedger_alike`: what is read of the tenant's ledger;
* `ensureLedger_agrees`, `appendToLedger_agrees`: what is written to it.

And whatever the store does for a tenant leaves the other tenants' ledgers alone: `Disk.Spares`.
-/

namespace SalesLedger

open Storage Sql

namespace Storage

variable {root : String} {d d' : Disk} {S : Set Place}

theorem Disk.Alike.insert (hd : d.Alike S d') {p : Place} (hp : d'.node? p = d.node? p) :
    d.Alike (insert p S) d' := by
  refine ⟨hd.working, hd.outages, fun q hq => ?_⟩
  rcases Set.mem_insert_iff.1 hq with rfl | hq
  · exact hp
  · exact hd.nodes q hq

/-! ## What is made of a ledger -/

section

variable (h : d.IsRooted root) (h' : d'.IsRooted root) (hd : d.Alike S d')

include hd in
/-- The directory of the ledgers is made on both disks, if it is not there. -/
theorem alike_withLedgers :
    (d.withLedgers root).Alike (insert (Root.ledgers root d.working) S) (d'.withLedgers root) := by
  have hnode : (d.withLedgers root).node? (Root.ledgers root d.working) = some .directory :=
    of_decide_eq_true Disk.isDirectory_withLedgers
  have hnode' : (d'.withLedgers root).node? (Root.ledgers root d.working) = some .directory := by
    rw [← hd.working]
    exact of_decide_eq_true Disk.isDirectory_withLedgers
  refine ⟨?_, ?_, fun q hq => ?_⟩
  · simp [hd.working]
  · simp [hd.outages]
  · by_cases hq' : q = Root.ledgers root d.working
    · rw [hq', hnode, hnode']
    · rw [Disk.node?_withLedgers hq', Disk.node?_withLedgers (hd.working ▸ hq')]
      exact hd.nodes q (hq.resolve_left hq')

variable {t : Tenant} (ht : Root.ledger root d.working t ∈ S)

include h h' hd ht

/-- A ledger is opened alike where its directory is there. -/
theorem ofText_ledger_agrees (hledgers : d.isDirectory (Root.ledgers root d.working) = true)
    (hledgers' : d'.isDirectory (Root.ledgers root d.working) = true) {access : Access}
    (haccess : access ≠ .memory) (habove : access = .create → Root.ledgers root d.working ∈ S) :
    Agrees (fun o o' => o'.1 = o.1 ∧ o.1.IsAt S ∧ o.2.Alike S o'.2)
      (Handle.ofText d access (Store.ledgerPath (.rootedAt root) t))
      (Handle.ofText d' access (Store.ledgerPath (.rootedAt root) t)) := by
  refine Handle.ofText_agrees hd (h.ofText_ledgerPath t access)
    (isTransient_ledgerPath t haccess false) ?_ (by rwa [Root.place_ledgerPath]) fun hcreate => ?_
  · have hwalk' := h'.walk_dataDir (hd.working ▸ hledgers')
    rw [hd.working] at hwalk'
    rw [Store.ledgerPath, Path.names_join _ (slash_not_mem_ledgerFile t) (isIdle_ledgerFile t),
      Path.start_join _ _ (slash_not_mem_ledgerFile t)]
    exact Disk.isBarred_congr (h.walk_dataDir hledgers) hledgers hwalk' hledgers' _
  · rw [Root.place_ledgerPath, Root.dropLast_ledger]
    exact habove hcreate

namespace Store

/-- **A ledger is made alike** on two disks that agree on it. -/
theorem ensureLedger_agrees :
    AgreesOn S (ensureLedger (.rootedAt root) d t) (ensureLedger (.rootedAt root) d' t) := by
  unfold ensureLedger
  rw [h.makeDirectories_dataDir, h'.makeDirectories_dataDir]
  by_cases hlong : Path.longestPath < (Config.rootedAt root).dataDir.utf8ByteSize
  · simp only [if_pos hlong]
    exact ⟨rfl, hd⟩
  simp only [if_neg hlong]
  have hmade : (d.withLedgers root).Alike (insert (Root.ledgers root d.working) S)
      (d'.withLedgers root) := alike_withLedgers hd
  have hmono : S ⊆ insert (Root.ledgers root d.working) S := Set.subset_insert _ _
  have hthere : (d'.withLedgers root).isDirectory (Root.ledgers root d.working) = true := by
    rw [← hd.working]
    exact Disk.isDirectory_withLedgers
  have hopen := ofText_ledger_agrees h.withLedgers h'.withLedgers hmade (t := t)
    (by simpa using hmono ht) (by simpa using Disk.isDirectory_withLedgers) (by simpa using hthere)
    (by decide : Access.create ≠ .memory) (by simp)
  rcases hopen.split with ⟨f, hx, hy⟩ | ⟨⟨handle, e⟩, ⟨_, e'⟩, hx, hy, rfl, hplace, he⟩
  · rw [hx, hy]
    exact ⟨rfl, hmade.mono hmono⟩
  · rw [hx, hy]
    dsimp only
    rcases (ensureTable_agrees he hplace Ledger.emptyLedger).split with
      ⟨f, hx, hy⟩ | ⟨_, _, hx, hy, hafter⟩
    · rw [hx, hy]
      exact ⟨rfl, he.mono hmono⟩
    · rw [hx, hy]
      exact ⟨rfl, hafter.mono hmono⟩

/-- **Sales go into a ledger alike** on two disks that agree on it. -/
theorem appendToLedger_agrees (sales : List Sale) :
    AgreesOn S (appendToLedger (.rootedAt root) d t sales)
      (appendToLedger (.rootedAt root) d' t sales) := by
  obtain ⟨hanswer, hmade⟩ := ensureLedger_agrees h h' hd ht
  have hkeep := keeps_ensureLedger (.rootedAt root) d t
  have hkeep' := keeps_ensureLedger (.rootedAt root) d' t
  have hfills := h.fills_ensureLedger t
  have hfills' := h'.fills_ensureLedger t
  unfold appendToLedger
  generalize ensureLedger (.rootedAt root) d t = o at *
  generalize ensureLedger (.rootedAt root) d' t = o' at *
  obtain ⟨answer, e⟩ := o
  obtain ⟨answer', e'⟩ := o'
  obtain rfl : answer = answer' := hanswer.symm
  cases answer with
  | error f => exact ⟨rfl, hmade⟩
  | ok _ =>
    obtain ⟨he, hledgers⟩ := h.of_fills_ledger hkeep (hfills.resolve_left (by simp))
    obtain ⟨he', hledgers'⟩ := h'.of_fills_ledger hkeep' (hfills'.resolve_left (by simp))
    have hworking : e.working = d.working := hkeep.working
    rw [← hworking] at hledgers ht
    rw [hd.working, ← hworking] at hledgers'
    have hboth : e'.node? (Root.ledgers root e.working) = e.node? (Root.ledgers root e.working) := by
      rw [of_decide_eq_true hledgers, of_decide_eq_true hledgers']
    have hinsert := hmade.insert hboth
    have hmono : S ⊆ insert (Root.ledgers root e.working) S := Set.subset_insert _ _
    obtain ⟨hsame, hafter⟩ := insertAt_agrees hinsert
      (ofText_ledger_agrees he he' hinsert (hmono ht) hledgers hledgers'
        (by decide : Access.create ≠ .memory) fun _ => Set.mem_insert _ _)
      t ledgerActions Ledger.table (sales.map Sale.values)
    exact ⟨hsame, hafter.mono hmono⟩

/-! ## What is read of a ledger -/

theorem ledgerExists_alike :
    ledgerExists (.rootedAt root) d' t = ledgerExists (.rootedAt root) d t := by
  rw [h.ledgerExists_eq, h'.ledgerExists_eq, hd.working, hd.nodes _ ht]

/-- **A ledger is read alike** on two disks that agree on it. -/
theorem openLedger_alike (action : String) :
    openLedger (.rootedAt root) d' t action = openLedger (.rootedAt root) d t action := by
  have hexists := ledgerExists_alike h h' hd ht
  unfold ledgerExists at hexists
  unfold openLedger
  dsimp only
  rw [hexists]
  split
  · rename_i hthere
    -- what exists stands in the directory of the ledgers, on both disks
    have hsome : (d.node? (Root.ledger root d.working t)).isSome = true := by
      have heq := h.ledgerExists_eq t
      rw [ledgerExists, hthere] at heq
      exact (Bool.and_eq_true_iff.1 heq.symm).2
    have hledgers' : d'.isDirectory (Root.ledgers root d'.working) = true :=
      h'.ledger t (by rw [hd.working, hd.nodes _ ht]; exact hsome)
    rw [hd.working] at hledgers'
    have hopen := ofText_ledger_agrees h h' hd ht (h.ledger t hsome) hledgers'
      (by decide : Access.readOnly ≠ .memory) (by simp)
    rcases hopen.split with ⟨f, hx, hy⟩ | ⟨⟨handle, e⟩, ⟨_, e'⟩, hx, hy, rfl, hplace, -⟩
    · rw [hx, hy]
    · rw [hx, hy]
      dsimp only
      rw [Handle.database_eq hd hplace]
  · rfl

end Store

end

/-! ## What is left alone -/

/-- A later disk below the root on which the ledgers of some tenants stand as they did. -/
structure Disk.Spares (root : String) (spared : Tenant → Prop) (d d' : Disk) : Prop where
  rooted : d'.IsRooted root
  working : d'.working = d.working
  ledger : ∀ s, spared s →
    d'.node? (Root.ledger root d.working s) = d.node? (Root.ledger root d.working s)

namespace Disk.Spares

variable {spared : Tenant → Prop}

theorem refl (h : d.IsRooted root) : Spares root spared d d := ⟨h, rfl, fun _ _ => rfl⟩

theorem trans {d'' : Disk} (h : Spares root spared d d') (h' : Spares root spared d' d'') :
    Spares root spared d d'' := by
  refine ⟨h'.rooted, h'.working.trans h.working, fun s hs => ?_⟩
  have hlater := h'.ledger s hs
  rw [h.working] at hlater
  exact hlater.trans (h.ledger s hs)

theorem mono {fewer : Tenant → Prop} (h : Spares root spared d d')
    (hfewer : ∀ s, fewer s → spared s) : Spares root fewer d d' :=
  ⟨h.rooted, h.working, fun s hs => h.ledger s (hfewer s hs)⟩

theorem of_fills_ledger (h : d.IsRooted root) (hkeep : d.Keeps d') {t : Tenant}
    (hfills : (d.withLedgers root).Fills (Root.ledger root d.working t) d') :
    Spares root (· ≠ t) d d' := by
  refine ⟨(h.of_fills_ledger hkeep hfills).1, hkeep.working, fun s hs => ?_⟩
  rw [hfills.apart _ (Root.ledger_ne_of_ne hs), node?_withLedgers (Root.ledger_ne_ledgers s)]

theorem of_fills_master (h : d.IsRooted root) (hkeep : d.Keeps d')
    (hfills : d.Fills (Root.master root d.working) d') : Spares root (fun _ => True) d d' :=
  ⟨h.of_fills_master hkeep hfills, hkeep.working,
    fun s _ => hfills.apart _ (Root.ledger_ne_master s)⟩

end Disk.Spares

namespace Store

variable (h : d.IsRooted root) (t : Tenant)

include h

theorem spares_ensureLedger :
    Disk.Spares root (· ≠ t) d (ensureLedger (.rootedAt root) d t).2 := by
  rcases h.fills_ensureLedger t with ⟨f, hfailed⟩ | hfills
  · rw [hfailed]
    exact .refl h
  · exact .of_fills_ledger h (keeps_ensureLedger _ d t) hfills

theorem spares_appendToLedger (sales : List Sale) :
    Disk.Spares root (· ≠ t) d (appendToLedger (.rootedAt root) d t sales).2 := by
  rcases h.fills_appendToLedger t sales with ⟨f, hfailed⟩ | hfills
  · rw [hfailed]
    exact .refl h
  · exact .of_fills_ledger h (keeps_appendToLedger _ d t sales) hfills

theorem spares_ensureMaster :
    Disk.Spares root (fun _ => True) d (ensureMaster (.rootedAt root) d).2 :=
  .of_fills_master h (keeps_ensureMaster _ d) h.fills_ensureMaster

theorem spares_appendToMaster (sales : List Sale) :
    Disk.Spares root (fun _ => True) d (appendToMaster (.rootedAt root) d t sales).2 :=
  .of_fills_master h (keeps_appendToMaster _ d t sales) (h.fills_appendToMaster t sales)

/-- **Appending sales leaves the ledgers of all other tenants alone.** -/
theorem spares_append (sales : List Sale) :
    Disk.Spares root (· ≠ t) d (append (.rootedAt root) d t sales).2 := by
  have hledger := spares_appendToLedger h t sales
  unfold append
  split
  · exact .refl h
  split
  · rename_i heq
    rwa [heq] at hledger
  · rename_i made heq
    rw [heq] at hledger
    have hmaster : Disk.Spares root (· ≠ t) made (appendToMaster (.rootedAt root) made t sales).2 :=
      (spares_appendToMaster hledger.rooted t sales).mono fun _ _ => trivial
    split
    · rename_i hsynced
      rw [hsynced] at hmaster
      exact hledger.trans hmaster
    · rename_i hsynced
      rw [hsynced] at hmaster
      exact hledger.trans hmaster

end Store

end Storage

end SalesLedger
