import SalesLedger.Proofs.Runs

/-!
# Calls that fail

An append that fails leaves the master ledger and the ledgers of the other tenants as they were. It
leaves its own tenant's ledger as it was exactly when that could not be written; a call that fails
afterwards, at the master ledger, leaves its batch behind (`append_failed`). A call that is made
again and is answered well therefore records the batch once in the master ledger, and once in the
tenant's ledger exactly when nothing was left behind.
-/

namespace SalesLedger.History

open Storage Sql Ledger

variable {config : Config} {d d' : Disk} {ledgers : Tenant → List Sale} {master : List Entry}

/-- What a call that failed left of its batch in the tenant's ledger: all of it, once that was
written. -/
def leftover (config : Config) (d : Disk) (t : Tenant) (sales : List Sale) : List Sale :=
  match (Store.appendToLedger config d t sales).1 with
  | .ok () => sales
  | .error _ => []

/-- Two disks with the same rows in all ledgers. -/
structure SameLedgers (config : Config) (d d' : Disk) : Prop where
  ledger : ∀ t, Store.heldLedger config d' t = Store.heldLedger config d t
  master : Store.heldMaster config d' = Store.heldMaster config d

theorem ofSales_injective {sales more : List Sale} (h : ofSales (sales ++ more) = ofSales sales) :
    more = [] := by
  have hrows : (ofSales (sales ++ more)).rows.length = (ofSales sales).rows.length := by rw [h]
  simp only [ofSales, List.length_mapIdx, List.length_append] at hrows
  exact List.length_eq_zero_iff.1 (by omega)

theorem sameLedgers_iff {t : Tenant} {sales : List Sale} (hd : Store.Holds config d ledgers master)
    (hd' : Store.Holds config d' (Store.addTo ledgers t sales) master) :
    SameLedgers config d d' ↔ sales = [] := by
  constructor
  · intro h
    have hledger := h.ledger t
    rw [hd.ledger, hd'.ledger, Store.addTo_self] at hledger
    exact ofSales_injective hledger
  · rintro rfl
    rw [Store.addTo_nil] at hd'
    exact ⟨fun s => (hd'.ledger s).trans (hd.ledger s).symm, hd'.master.trans hd.master.symm⟩

/-- A call without sales does not fail. -/
theorem ne_nil_of_append_failed {t : Tenant} {sales : List Sale} {f : Failure}
    (hfail : Store.append config d t sales = (.error f, d')) : sales ≠ [] := by
  rintro rfl
  cases hfail

/-- A call that fails leaves what is left over, and the failure tells which of the two ledgers it
was. -/
theorem holds_of_append_failed (hdir : config.HasPlainDirectory)
    (hd : Store.Holds config d ledgers master) {t : Tenant} {sales : List Sale} {f : Failure}
    (hfail : Store.append config d t sales = (.error f, d')) :
    Store.Holds config d' (Store.addTo ledgers t (leftover config d t sales)) master := by
  rcases Store.append_cases hdir hd hfail with
    ⟨f', -, hledger, hheld⟩ | ⟨f', -, hledger, hheld⟩ | ⟨hok, -⟩
  · have hnone : leftover config d t sales = [] := by rw [leftover, hledger]
    rw [hnone, Store.addTo_nil]
    exact hheld
  · have hall : leftover config d t sales = sales := by rw [leftover, hledger]
    rw [hall]
    exact hheld
  · cases hok

theorem leftover_eq_nil_iff {t : Tenant} {sales : List Sale} (hsales : sales ≠ []) :
    leftover config d t sales = [] ↔ ∃ f, (Store.appendToLedger config d t sales).1 = .error f := by
  unfold leftover
  split
  · rename_i heq
    simp [heq, hsales]
  · rename_i f heq
    simp [heq]

/-- What a call that is answered well adds. -/
theorem holds_of_append_ok (hdir : config.HasPlainDirectory)
    (hd : Store.Holds config d ledgers master) {t : Tenant} {sales : List Sale} {n : Nat}
    (hok : Store.append config d t sales = (.ok n, d')) :
    Store.Holds config d' (Store.addTo ledgers t sales) (master ++ sales.map (t, ·)) := by
  rcases Store.append_cases hdir hd hok with ⟨f, herror, -⟩ | ⟨f, herror, -⟩ | ⟨-, hheld⟩
  · cases herror
  · cases herror
  · exact hheld

/-- **A call that fails, and the same call again.** After any run, an append that fails leaves all
ledgers as they were exactly when its tenant's ledger could not be written; otherwise the batch is
in that ledger, and nowhere else. When the call is made again and is answered well, the master
ledger has the batch once, and the tenant's ledger once more than was left over. -/
theorem append_failed (h : Begins config d) (steps : List Step) {t : Tenant} {sales : List Sale}
    {outages : List Bool} {f : Failure}
    (hfail : Store.append config ((after config d steps).facing outages) t sales = (.error f, d')) :
    (SameLedgers config (after config d steps) d' ↔
      ∃ f, (Store.appendToLedger config ((after config d steps).facing outages) t sales).1 =
        .error f) ∧
      ∃ ledgers master, Store.Holds config (after config d steps) ledgers master ∧
        Store.Holds config d' (Store.addTo ledgers t
          (leftover config ((after config d steps).facing outages) t sales)) master ∧
        ∀ outages' n d'', Store.append config (d'.facing outages') t sales = (.ok n, d'') →
          Store.Holds config d''
            (Store.addTo ledgers t
              (leftover config ((after config d steps).facing outages) t sales ++ sales))
            (master ++ sales.map (t, ·)) := by
  obtain ⟨landed, -, -, hheld⟩ := moved_after h.directory h.holds steps
  have hfacing := hheld.of_sameTables (Disk.sameTables_facing _ outages)
  have hleft := holds_of_append_failed h.directory hfacing hfail
  refine ⟨?_, _, _, hheld, hleft, fun outages' n d'' hok => ?_⟩
  · rw [sameLedgers_iff hheld hleft]
    exact leftover_eq_nil_iff (ne_nil_of_append_failed hfail)
  · have hagain := holds_of_append_ok h.directory
      (hleft.of_sameTables (d'.sameTables_facing outages')) hok
    rw [Store.addTo_addTo] at hagain
    exact hagain

/-- While the master ledger is locked the call fails; its batch stays in the tenant's ledger, and
the same call again puts it there a second time. -/
theorem append_failed_vendor :
    ∃ f d' n d'', Store.append shop (blank.facing masterLocked) vendor [rice] = (.error f, d') ∧
      Store.append shop (d'.facing []) vendor [rice] = (.ok n, d'') ∧
      ¬ SameLedgers shop blank d' ∧
      ∃ ledgers master, Store.Holds shop blank ledgers master ∧
        Store.Holds shop d'' (Store.addTo ledgers vendor [rice, rice])
          (master ++ [(vendor, rice)]) := by
  have hfail : Store.append shop (blank.facing masterLocked) vendor [rice] =
      (.error ⟨.storage, "syncing sale to master for tenant 9800000001: database is locked"⟩,
        (Store.append shop (blank.facing masterLocked) vendor [rice]).2) :=
    Prod.ext (by decide +kernel) rfl
  have hledger : (Store.appendToLedger shop (blank.facing masterLocked) vendor [rice]).1 =
      .ok () := by decide +kernel
  generalize (Store.append shop (blank.facing masterLocked) vendor [rice]).2 = d' at hfail
  obtain ⟨hsame, ledgers, master, hheld, -, hagain⟩ := append_failed begins_blank [] hfail
  have hok : Store.append shop
      ((Store.append shop (blank.facing masterLocked) vendor [rice]).2.facing []) vendor [rice] =
      (.ok 1, (Store.append shop
        ((Store.append shop (blank.facing masterLocked) vendor [rice]).2.facing []) vendor
          [rice]).2) :=
    Prod.ext (by decide +kernel) rfl
  rw [hfail] at hok
  have hleft : leftover shop (blank.facing masterLocked) vendor [rice] = [rice] := by
    rw [leftover, hledger]
  have hthen := hagain [] 1 _ hok
  refine ⟨_, d', 1, _, hfail, hok, fun hunchanged => ?_, ledgers, master, hheld, ?_⟩
  · obtain ⟨f, hf⟩ := hsame.1 hunchanged
    rw [after, List.foldl_nil, hledger] at hf
    cases hf
  · rw [after, List.foldl_nil, hleft] at hthen
    exact hthen

end SalesLedger.History
