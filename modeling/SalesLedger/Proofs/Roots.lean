import SalesLedger.Proofs.Alike
import SalesLedger.Proofs.Reaching

/-!
# Ledgers below a root

Where the directory of the ledgers and the master ledger are when both are kept below one root, and
how a disk looks whose root nothing else writes to (`Disk.IsRooted`). On such a disk it is known what
each operation of the store does before it opens a file:

* `makeDirectories_dataDir`: the directory of the ledgers is there afterwards, and nothing else is
  new; `makeDirectories_aboveMaster`: the directory of the master ledger is there.
* `ledgerExists_eq`: a tenant has a ledger file where one stands at its place.
* `isBarred_congr`: the way to a file is barred on two disks alike, if it can be gone on both.

What an operation writes, it writes to one place (`Disk.Fills`): that of the tenant's ledger
(`fills_ensureLedger`, `fills_appendToLedger`) or that of the master ledger (`fills_ensureMaster`,
`fills_appendToMaster`). So the disk stays as a rooted disk looks (`of_fills_ledger`,
`of_fills_master`).
-/

namespace SalesLedger.Storage

/-! ## Making directories -/

namespace Disk

variable {d d' : Disk} {here p : Place} {names : List String} {name : String}

theorem walk_singleton_ok (h : d.walk here (name :: names) = .ok p) :
    d.walk here [name] = .ok (Path.step here name) := by
  obtain ⟨hdirectory, hname, -⟩ := walk_cons_ok h
  rw [walk_cons hdirectory hname]
  rfl

/-- What can be gone to is not made again. -/
theorem makeOne_of_walk (h : d.walk here names = .ok p) :
    d.makeOne here names = .error .exists := by
  induction names generalizing here with
  | nil => rfl
  | cons name rest ih =>
    obtain ⟨hdirectory, hname, hrest⟩ := walk_cons_ok h
    cases rest with
    | nil =>
      by_cases hup : name = ".."
      · simp [makeOne, hdirectory, hup]
      · simp [makeOne, hdirectory, hup, hname hup]
    | cons next rest =>
      rw [makeOne, walk_singleton_ok h]
      exact ih hrest

theorem makeOne_concat (h : d.walk here names = .ok p) (last : String) :
    d.makeOne here (names ++ [last]) = d.makeOne p [last] := by
  induction names generalizing here with
  | nil => rw [Except.ok.inj h, List.nil_append]
  | cons name rest ih =>
    obtain ⟨next, more, hmore⟩ : ∃ next more, rest ++ [last] = next :: more :=
      List.exists_cons_of_ne_nil (by simp)
    have hstep : d.makeOne here (name :: next :: more) =
        d.makeOne (Path.step here name) (next :: more) := by
      rw [makeOne, walk_singleton_ok h]
    rw [List.cons_append, hmore, hstep, ← hmore]
    exact ih (walk_cons_ok h).2.2

theorem ensureOne_of_walk (h : d.walk here names = .ok p) (hdirectory : d.isDirectory p = true) :
    d.ensureOne here names = .ok d := by
  simp [ensureOne, makeOne_of_walk h, h, hdirectory]

theorem ensureAll_of_walk (h : d.walk here names = .ok p) (hdirectory : d.isDirectory p = true) :
    d.ensureAll here names.reverse = (.ok (), d) := by
  cases hnames : names.reverse with
  | nil => rfl
  | cons name above =>
    rw [ensureAll, ← hnames, List.reverse_reverse, ensureOne_of_walk h hdirectory]

theorem ensureAll_of_free (h : d.walk here names = .ok p) (hdirectory : d.isDirectory p = true)
    (hup : name ≠ "..") (hshort : Path.isTooLong name = false)
    (hfree : d.node? (p ++ [name]) = none) :
    d.ensureAll here (names ++ [name]).reverse = (.ok (), d.put (p ++ [name]) .directory) := by
  have hone : d.ensureOne here (names ++ [name]) = .ok (d.put (p ++ [name]) .directory) := by
    simp [ensureOne, makeOne_concat h, makeOne, hdirectory, hup, hshort, hfree]
  rw [List.reverse_append, List.reverse_singleton, List.singleton_append, ensureAll,
    List.reverse_cons, List.reverse_reverse, hone]

/-- **A directory that is there is not made again.** -/
theorem makeDirectories_of_walk {path : String} (hdot : Path.endsInDot path = false)
    (h : d.walk (Path.start d.working path) (Path.names path) = .ok p)
    (hdirectory : d.isDirectory p = true) :
    d.makeDirectories path =
      if Path.longestPath < path.utf8ByteSize then (.error .nameTooLong, d) else (.ok (), d) := by
  simp only [makeDirectories, hdot, Bool.false_eq_true, if_false, ensureAll_of_walk h hdirectory]

end Disk

/-! ## Places -/

namespace Root

variable (root : String) (working : Place)

/-- Where the directory of the ledgers is, a tenant's ledger, and the master ledger. -/
def ledgers : Place := Path.place working root ++ [Config.usualDataDir]
def ledger (t : Tenant) : Place := ledgers root working ++ [t.ledgerFile]
def master : Place := Path.place working root ++ [Config.usualMasterPath]

variable {root working}

theorem place_dataDir : Path.place working (Config.rootedAt root).dataDir = ledgers root working :=
  Path.place_join _ _ (by decide) (by decide) (by decide)

theorem place_ledgerPath (t : Tenant) :
    Path.place working (Store.ledgerPath (.rootedAt root) t) = ledger root working t := by
  rw [Store.ledgerPath, Path.place_join _ _ (slash_not_mem_ledgerFile t) (isIdle_ledgerFile t)
    (ledgerFile_ne (by decide)), place_dataDir]
  rfl

theorem place_masterPath :
    Path.place working (Config.rootedAt root).masterPath = master root working :=
  Path.place_join _ _ (by decide) (by decide) (by decide)

theorem dropLast_ledger (t : Tenant) : (ledger root working t).dropLast = ledgers root working :=
  List.dropLast_concat

theorem dropLast_master : (master root working).dropLast = Path.place working root :=
  List.dropLast_concat

theorem ledger_ne_of_ne {s t : Tenant} (h : s ≠ t) :
    ledger root working s ≠ ledger root working t := by
  intro heq
  exact h (Tenant.ledgerFile_injective (by simpa [ledger] using heq))

theorem ledgers_ne_master : ledgers root working ≠ master root working := by
  simp [ledgers, master, Config.usualDataDir, Config.usualMasterPath]

theorem ledger_ne_ledgers (t : Tenant) : ledger root working t ≠ ledgers root working := by
  intro h
  simpa [ledger] using congrArg List.length h

theorem ledger_ne_master (t : Tenant) : ledger root working t ≠ master root working := by
  intro h
  simpa [ledger, ledgers, master] using congrArg List.length h

end Root

/-! ## Disks -/

/-- A disk that nothing but the program wrote to below a root, which is a directory and no address.
Files stand only where the program puts them: ledgers in a directory that was made for them, and a
database in place of the master ledger. -/
structure Disk.IsRooted (root : String) (d : Disk) : Prop where
  plain : Address.scheme.isPrefixOf (Text.Utf8.toBytes root) = false
  way : d.walk (Path.start d.working root) (Path.names root) = .ok (Path.place d.working root)
  directory : d.isDirectory (Path.place d.working root) = true
  ledgers : d.node? (Root.ledgers root d.working) = none ∨
    d.isDirectory (Root.ledgers root d.working) = true
  ledger : ∀ t, (d.node? (Root.ledger root d.working t)).isSome = true →
    d.isDirectory (Root.ledgers root d.working) = true
  master : d.node? (Root.master root d.working) = none ∨
    ∃ db, d.node? (Root.master root d.working) = some (.database db)

namespace Disk

variable {root : String} {d d' : Disk} {here p : Place} {names : List String}

namespace IsRooted

theorem hasPlainDirectory (h : d.IsRooted root) : (Config.rootedAt root).HasPlainDirectory :=
  Address.scheme_join h.plain (by decide +kernel)

theorem ofText_masterPath (h : d.IsRooted root) (access : Access) :
    Address.ofText access (Config.rootedAt root).masterPath =
      .ok ⟨(Config.rootedAt root).masterPath, access, false⟩ :=
  Address.ofText_path (Address.scheme_join h.plain (by decide +kernel)) access

/-- What keeps the root keeps the way to it. -/
theorem of_keeps (h : d.IsRooted root) (hkeep : d.Keeps d')
    (hledgers : d'.node? (Root.ledgers root d.working) = none ∨
      d'.isDirectory (Root.ledgers root d.working) = true)
    (hledger : ∀ t, (d'.node? (Root.ledger root d.working t)).isSome = true →
      d'.isDirectory (Root.ledgers root d.working) = true)
    (hmaster : d'.node? (Root.master root d.working) = none ∨
      ∃ db, d'.node? (Root.master root d.working) = some (.database db)) :
    d'.IsRooted root := by
  have hworking := hkeep.working
  refine ⟨h.plain, ?_, ?_, ?_, ?_, ?_⟩ <;> rw [hworking]
  · exact hkeep.walk h.way
  · exact hkeep.isDirectory h.directory
  · exact hledgers
  · exact hledger
  · exact hmaster

theorem facing (h : d.IsRooted root) (outages : List Bool) : (d.facing outages).IsRooted root :=
  h.of_keeps (d.keeps_facing outages) h.ledgers h.ledger h.master

/-! ### Directories -/

theorem walk_dataDir (h : d.IsRooted root)
    (hledgers : d.isDirectory (Root.ledgers root d.working) = true) :
    d.walk (Path.start d.working (Config.rootedAt root).dataDir)
      (Path.names (Config.rootedAt root).dataDir) = .ok (Root.ledgers root d.working) := by
  have hsome : (d.node? (Root.ledgers root d.working)).isSome = true := by
    rw [of_decide_eq_true hledgers]
    rfl
  have hstep : d.walk (Path.place d.working root) [Config.usualDataDir] =
      .ok (Root.ledgers root d.working) := by
    rw [Disk.walk_cons h.directory fun _ => ⟨by decide +kernel, hsome⟩, Path.step,
      if_neg (by decide)]
    rfl
  rw [Config.rootedAt, Path.names_join _ (by decide) (by decide), Path.start_join _ _ (by decide),
    Disk.walk_append, h.way]
  exact hstep

end IsRooted

/-- The disk with the directory of the ledgers below a root. -/
def withLedgers (root : String) (d : Disk) : Disk :=
  if d.isDirectory (Root.ledgers root d.working) then d
  else d.put (Root.ledgers root d.working) .directory

@[simp] theorem working_withLedgers : (d.withLedgers root).working = d.working := by
  unfold withLedgers
  split <;> rfl

@[simp] theorem outages_withLedgers : (d.withLedgers root).outages = d.outages := by
  unfold withLedgers
  split <;> rfl

theorem isDirectory_withLedgers : (d.withLedgers root).isDirectory (Root.ledgers root d.working) =
    true := by
  unfold withLedgers
  split
  · assumption
  · exact decide_eq_true (node?_put_self (by simp [Root.ledgers]) _ _)

theorem node?_withLedgers {q : Place} (hq : q ≠ Root.ledgers root d.working) :
    (d.withLedgers root).node? q = d.node? q := by
  unfold withLedgers
  split
  · rfl
  · exact node?_put_of_ne hq _ _

namespace IsRooted

theorem keeps_withLedgers (h : d.IsRooted root) : d.Keeps (d.withLedgers root) := by
  unfold withLedgers
  split
  · exact .refl d
  · rename_i hnot
    have hnone := h.ledgers.resolve_right hnot
    exact keeps_put (by simp [Root.ledgers]) fun m hm => by simp [hnone] at hm

theorem withLedgers (h : d.IsRooted root) : (d.withLedgers root).IsRooted root := by
  refine h.of_keeps h.keeps_withLedgers (.inr isDirectory_withLedgers)
    (fun _ _ => isDirectory_withLedgers) ?_
  rw [node?_withLedgers Root.ledgers_ne_master.symm]
  exact h.master

/-- **Making the directory of the ledgers** makes nothing else. -/
theorem makeDirectories_dataDir (h : d.IsRooted root) :
    d.makeDirectories (Config.rootedAt root).dataDir =
      if Path.longestPath < (Config.rootedAt root).dataDir.utf8ByteSize
      then (.error .nameTooLong, d) else (.ok (), d.withLedgers root) := by
  have hslash : '/' ∉ Config.usualDataDir.toList := by decide
  obtain ⟨front, hparts, -⟩ := Path.parts_join root hslash
  have hdot : Path.endsInDot (Config.rootedAt root).dataDir = false :=
    Path.endsInDot_of_parts hparts (by decide)
  by_cases hledgers : d.isDirectory (Root.ledgers root d.working) = true
  · rw [Disk.withLedgers, if_pos hledgers]
    exact makeDirectories_of_walk hdot (h.walk_dataDir hledgers) hledgers
  · have hmade := ensureAll_of_free h.way h.directory (by decide) (by decide +kernel)
      (h.ledgers.resolve_right hledgers)
    rw [Disk.withLedgers, if_neg hledgers, makeDirectories, hdot, Config.rootedAt,
      Path.names_join _ (by decide) (by decide), Path.start_join _ _ (by decide), hmade]
    rfl

/-- **The directory of the master ledger** is the root, which is there. -/
theorem makeDirectories_aboveMaster (h : d.IsRooted root) :
    d.makeDirectories (Path.above (Config.rootedAt root).masterPath) =
      if Path.longestPath < (Path.above (Config.rootedAt root).masterPath).utf8ByteSize
      then (.error .nameTooLong, d) else (.ok (), d) := by
  have hslash : '/' ∉ Config.usualMasterPath.toList := by decide
  obtain ⟨hnames, hstart, hdot⟩ := Path.above_join_spec d.working root hslash (by decide)
  unfold Config.rootedAt
  rcases hstart with hnil | hstart
  · simp only [makeDirectories, hdot, hnames, hnil]
    rfl
  · refine makeDirectories_of_walk hdot ?_ h.directory
    rw [hnames, hstart]
    exact h.way

end IsRooted

/-! ## Files -/

theorem isBarred_congr (h : d.walk here names = .ok p) (hp : d.isDirectory p = true)
    (h' : d'.walk here names = .ok p) (hp' : d'.isDirectory p = true) (last : String) :
    Handle.isBarred d' here (names ++ [last]) = Handle.isBarred d here (names ++ [last]) := by
  induction names generalizing here with
  | nil =>
    obtain rfl := Except.ok.inj h
    simp [Handle.isBarred, of_decide_eq_true hp, of_decide_eq_true hp']
  | cons name rest ih =>
    obtain ⟨hhere, -, hrest⟩ := walk_cons_ok h
    obtain ⟨hhere', -, hrest'⟩ := walk_cons_ok h'
    rw [List.cons_append, Handle.isBarred, Handle.isBarred, ih hrest hrest',
      of_decide_eq_true hhere, of_decide_eq_true hhere']

theorem IsRooted.ledgerExists_eq (h : d.IsRooted root) (t : Tenant) :
    Store.ledgerExists (.rootedAt root) d t =
      (decide ((Store.ledgerPath (.rootedAt root) t).utf8ByteSize ≤ Path.longestPath) &&
        (d.node? (Root.ledger root d.working t)).isSome) := by
  have hplace : Path.place d.working (Store.ledgerPath (.rootedAt root) t) =
      Root.ledger root d.working t := Root.place_ledgerPath t
  unfold Store.ledgerExists exists? find
  rw [if_neg (ledgerPath_ne_empty t)]
  by_cases hlong : Path.longestPath < (Store.ledgerPath (.rootedAt root) t).utf8ByteSize
  · simp [hlong]
  rw [if_neg hlong, decide_eq_true (Nat.not_lt.1 hlong), Bool.true_and]
  cases hsome : (d.node? (Root.ledger root d.working t)).isSome with
  | true =>
    have hledgers := h.ledger t hsome
    rw [Store.walk_ledgerPath (h.walk_dataDir hledgers) hledgers (by rw [hplace]; exact hsome)]
  | false =>
    -- the last name on the way would be missing
    split
    · rename_i q hwalk
      rw [Store.ledgerPath, Path.names_join _ (slash_not_mem_ledgerFile t) (isIdle_ledgerFile t),
        Path.start_join _ _ (slash_not_mem_ledgerFile t), walk_append] at hwalk
      obtain ⟨above, habove, hlast⟩ := bind_eq_ok_iff.1 hwalk
      obtain ⟨-, hname, -⟩ := walk_cons_ok hlast
      have hfound := (hname (ledgerFile_ne (by decide))).2
      obtain rfl : above = Root.ledgers root d.working :=
        (eq_foldl_of_walk habove).trans Root.place_dataDir
      rw [Root.ledger] at hsome
      rw [hsome] at hfound
      cases hfound
    · rfl

/-! ## Writing -/

/-- A later disk that differs at one place at most, where a database is then. -/
structure Fills (p : Place) (d d' : Disk) : Prop where
  working : d'.working = d.working
  apart : ∀ q, q ≠ p → d'.node? q = d.node? q
  filled : d'.node? p = d.node? p ∨ ∃ db, d'.node? p = some (.database db)

namespace Fills

theorem refl (p : Place) (d : Disk) : Fills p d d := ⟨rfl, fun _ _ => rfl, .inl rfl⟩

theorem trans {d'' : Disk} (h : Fills p d d') (h' : Fills p d' d'') : Fills p d d'' := by
  refine ⟨h'.working.trans h.working, fun q hq => (h'.apart q hq).trans (h.apart q hq), ?_⟩
  rcases h'.filled with hsame | hfilled
  · rw [hsame]
    exact h.filled
  · exact .inr hfilled

theorem tried (h : Fills p d d') : Fills p d d'.tried := ⟨h.working, h.apart, h.filled⟩

theorem put (h : Fills p d d') (db : Database) : Fills p d (d'.put p (.database db)) := by
  refine ⟨h.working, fun q hq => (node?_put_of_ne hq _ _).trans (h.apart q hq), ?_⟩
  by_cases hp : p = []
  · simp [hp, node?]
  · exact .inr ⟨db, node?_put_self hp _ _⟩

end Fills

end Disk

section

variable {d d' : Disk} {p : Place}

theorem Handle.fills_openAt {access : Access} {path : String}
    (h : openAt d p access path = .ok d') : d.Fills p d' := by
  unfold openAt at h
  split at h
  · cases h
  split at h
  · cases h
  · obtain rfl := Except.ok.inj h
    exact (Disk.Fills.refl p d).tried
  · split at h
    · obtain rfl := Except.ok.inj h
      exact (Disk.Fills.refl p d).tried.put []
    · cases h

theorem Handle.fills_ofText {path : String} {access : Access} {h : Handle}
    (haddress : Address.ofText access path = .ok ⟨path, access, false⟩)
    (hkept : Address.isTransient ⟨path, access, false⟩ = false)
    (hopen : ofText d access path = .ok (h, d')) :
    h.place? = some (Path.place d.working path) ∧ d.Fills (Path.place d.working path) d' := by
  obtain ⟨rfl, -, hat⟩ := eq_of_ofText haddress hkept hopen
  exact ⟨rfl, fills_openAt hat⟩

theorem Handle.fills_write {h : Handle} {db : Database} (hp : h.place? = some p)
    (hw : h.write d db = .ok d') : d.Fills p d' := by
  rcases Handle.write_spec hw with ⟨hnone, -⟩ | ⟨q, hq, rfl⟩
  · rw [hp] at hnone
    cases hnone
  · obtain rfl : p = q := Option.some.inj (hp.symm.trans hq)
    exact (Disk.Fills.refl p d).tried.put db

namespace Store

theorem fills_ensureTable {h : Handle} {t : Sql.Table} (hp : h.place? = some p)
    (hmade : ensureTable d h t = .ok d') : d.Fills p d' := by
  obtain ⟨db, -, rfl | ⟨-, hwrite⟩⟩ := ensureTable_ok hmade
  · exact .refl p d'
  · exact Handle.fills_write hp hwrite

theorem fills_insertInto {h : Handle} {actions : Actions} {table : String}
    {rows : List (List (String × Sql.Cell))} (hp : h.place? = some p)
    (hmade : insertInto d h actions table rows = .ok d') : d.Fills p d' := by
  obtain ⟨db, u, x, written, -, -, -, hwrite, rfl | rfl⟩ := insertInto_ok hmade
  · exact Handle.fills_write hp hwrite
  · exact (Handle.fills_write hp hwrite).tried

theorem fills_insertAt {path : String}
    (haddress : Address.ofText .create path = .ok ⟨path, .create, false⟩)
    (hkept : Address.isTransient ⟨path, .create, false⟩ = false) (t : Tenant) (actions : Actions)
    (table : String) (rows : List (List (String × Sql.Cell))) :
    d.Fills (Path.place d.working path) (insertAt d t path actions table rows).2 := by
  unfold insertAt
  split
  · exact .refl _ d
  · rename_i hopen
    obtain ⟨hplace, hopened⟩ := Handle.fills_ofText haddress hkept hopen
    split
    · exact hopened
    · rename_i hinsert
      exact hopened.trans (fills_insertInto hplace hinsert)

end Store

end

namespace Disk.IsRooted

variable {root : String} {d d' : Disk}

theorem ofText_ledgerPath (h : d.IsRooted root) (t : Tenant) (access : Access) :
    Address.ofText access (Store.ledgerPath (.rootedAt root) t) =
      .ok ⟨Store.ledgerPath (.rootedAt root) t, access, false⟩ :=
  Storage.ofText_ledgerPath h.hasPlainDirectory t access

/-- **Making a ledger** fails before anything is made, or makes the directory of the ledgers and
writes to the ledger's place. -/
theorem fills_ensureLedger (h : d.IsRooted root) (t : Tenant) :
    (∃ f, Store.ensureLedger (.rootedAt root) d t = (.error f, d)) ∨
      (d.withLedgers root).Fills (Root.ledger root d.working t)
        (Store.ensureLedger (.rootedAt root) d t).2 := by
  unfold Store.ensureLedger
  rw [h.makeDirectories_dataDir]
  by_cases hlong : Path.longestPath < (Config.rootedAt root).dataDir.utf8ByteSize
  · rw [if_pos hlong]
    exact .inl ⟨_, rfl⟩
  rw [if_neg hlong]
  right
  dsimp only
  split
  · exact .refl _ _
  · rename_i hopen
    obtain ⟨hplace, hopened⟩ := Handle.fills_ofText (h.ofText_ledgerPath t .create)
      (isTransient_ledgerPath t (by decide) false) hopen
    rw [working_withLedgers, Root.place_ledgerPath] at hplace hopened
    split
    · exact hopened
    · rename_i hmade
      exact hopened.trans (Store.fills_ensureTable hplace hmade)

theorem fills_appendToLedger (h : d.IsRooted root) (t : Tenant) (sales : List Sale) :
    (∃ f, Store.appendToLedger (.rootedAt root) d t sales = (.error f, d)) ∨
      (d.withLedgers root).Fills (Root.ledger root d.working t)
        (Store.appendToLedger (.rootedAt root) d t sales).2 := by
  unfold Store.appendToLedger
  rcases h.fills_ensureLedger t with ⟨f, hfailed⟩ | hmade
  · rw [hfailed]
    exact .inl ⟨f, rfl⟩
  right
  split
  · rename_i heq
    rwa [heq] at hmade
  · rename_i made heq
    rw [heq] at hmade
    have hinserted := Store.fills_insertAt (d := made) (h.ofText_ledgerPath t .create)
      (isTransient_ledgerPath t (by decide) false) t Store.ledgerActions Ledger.table
      (sales.map Sale.values)
    rw [Root.place_ledgerPath, hmade.working, working_withLedgers] at hinserted
    exact hmade.trans hinserted

theorem isTransient_masterPath :
    Address.isTransient ⟨(Config.rootedAt root).masterPath, .create, false⟩ = false := by
  have hplace : (Path.place [] (Config.rootedAt root).masterPath).getLast? =
      some Config.usualMasterPath := by
    rw [Root.place_masterPath, Root.master, List.getLast?_concat]
  have hne : ∀ s, (Path.place [] s).getLast? ≠ some Config.usualMasterPath →
      (Config.rootedAt root).masterPath ≠ s := fun s hs heq => hs (heq ▸ hplace)
  have hempty := hne "" (by decide +kernel)
  have hmemory := hne ":memory:" (by decide +kernel)
  simp [Address.isTransient, hempty, hmemory]

theorem fills_ensureMaster (h : d.IsRooted root) :
    d.Fills (Root.master root d.working) (Store.ensureMaster (.rootedAt root) d).2 := by
  unfold Store.ensureMaster
  rw [h.makeDirectories_aboveMaster]
  by_cases hlong :
      Path.longestPath < (Path.above (Config.rootedAt root).masterPath).utf8ByteSize
  · rw [if_pos hlong]
    exact .refl _ d
  rw [if_neg hlong]
  dsimp only
  split
  · exact .refl _ d
  · rename_i hopen
    obtain ⟨hplace, hopened⟩ :=
      Handle.fills_ofText (h.ofText_masterPath .create) isTransient_masterPath hopen
    rw [Root.place_masterPath] at hplace hopened
    split
    · exact hopened
    · rename_i hmade
      exact hopened.trans (Store.fills_ensureTable hplace hmade)

theorem fills_appendToMaster (h : d.IsRooted root) (t : Tenant) (sales : List Sale) :
    d.Fills (Root.master root d.working) (Store.appendToMaster (.rootedAt root) d t sales).2 := by
  have hmade := h.fills_ensureMaster
  unfold Store.appendToMaster
  split
  · rename_i heq
    rwa [heq] at hmade
  · rename_i made heq
    rw [heq] at hmade
    have hinserted := Store.fills_insertAt (d := made) (h.ofText_masterPath .create)
      isTransient_masterPath t Store.masterActions Ledger.masterTable
      (sales.map (Ledger.masterValues t))
    rw [Root.place_masterPath, hmade.working] at hinserted
    exact hmade.trans hinserted

/-! ### What stays rooted -/

theorem of_fills_ledger (h : d.IsRooted root) (hkeep : d.Keeps d') {t : Tenant}
    (hfills : (d.withLedgers root).Fills (Root.ledger root d.working t) d') :
    d'.IsRooted root ∧ d'.isDirectory (Root.ledgers root d.working) = true := by
  have hledgers : d'.isDirectory (Root.ledgers root d.working) = true := by
    have hthere : (d.withLedgers root).isDirectory (Root.ledgers root d.working) = true :=
      isDirectory_withLedgers
    rw [isDirectory, hfills.apart _ (Root.ledger_ne_ledgers t).symm]
    exact hthere
  refine ⟨h.of_keeps hkeep (.inr hledgers) (fun _ _ => hledgers) ?_, hledgers⟩
  rw [hfills.apart _ (Root.ledger_ne_master t).symm, node?_withLedgers Root.ledgers_ne_master.symm]
  exact h.master

theorem of_fills_master (h : d.IsRooted root) (hkeep : d.Keeps d')
    (hfills : d.Fills (Root.master root d.working) d') : d'.IsRooted root := by
  have hledgers : d'.node? (Root.ledgers root d.working) = d.node? (Root.ledgers root d.working) :=
    hfills.apart _ Root.ledgers_ne_master
  refine h.of_keeps hkeep ?_ (fun t hsome => ?_) ?_
  · rw [isDirectory, hledgers]
    exact h.ledgers
  · rw [hfills.apart _ (Root.ledger_ne_master t)] at hsome
    rw [isDirectory, hledgers]
    exact h.ledger t hsome
  · rcases hfills.filled with hsame | hfilled
    · rw [hsame]
      exact h.master
    · exact .inr hfilled

end Disk.IsRooted

end SalesLedger.Storage
