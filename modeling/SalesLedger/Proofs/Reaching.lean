import SalesLedger.Proofs.Appending

/-!
# Reaching ledgers

A ledger that was written to once is found by everybody who reads later: the way to it was made, and
what stands on a disk stays there (`Disk.Keeps`). Only the tables of databases change.

* `IsGrowth`: what nothing the store does minds; `Keeps` is so.
* `walk_of_makeDirectories`: the way to a directory that was made can be gone.
* `IsReachable`: the way to a tenant's ledger is free, and a database is opened there.
* `isReachable_of_appendToLedger`: so it is where sales were written to the ledger, and so it stays
  (`IsReachable.keep`).
-/

namespace SalesLedger.Storage

open Sql

/-! ## What stays -/

/-- What stands at a place, whatever tables it has. -/
def Node.kind : Node → Node
  | .database _ => .database []
  | n => n

namespace Disk

/-- What stands on a disk stands on a later one, seen from the same directory. -/
structure Keeps (d d' : Disk) : Prop where
  working : d'.working = d.working
  nodes : ∀ p k, (d.node? p).map Node.kind = some k → (d'.node? p).map Node.kind = some k

variable {d d' : Disk} {here p : Place} {names : List String}

theorem Keeps.refl (d : Disk) : Keeps d d := ⟨rfl, fun _ _ h => h⟩

theorem Keeps.trans {d'' : Disk} (h : Keeps d d') (h' : Keeps d' d'') : Keeps d d'' :=
  ⟨h'.working.trans h.working, fun p k hk => h'.nodes p k (h.nodes p k hk)⟩

theorem keeps_tried (d : Disk) : Keeps d d.tried := ⟨rfl, fun _ _ h => h⟩

theorem keeps_facing (d : Disk) (outages : List Bool) : Keeps d (d.facing outages) :=
  ⟨rfl, fun _ _ h => h⟩

/-- Something is put where nothing was, or something of its kind. -/
theorem keeps_put {n : Node} (hp : p ≠ []) (hn : ∀ m, d.node? p = some m → n.kind = m.kind) :
    Keeps d (d.put p n) := by
  refine ⟨rfl, fun q k hk => ?_⟩
  by_cases hq : q = p
  · subst hq
    obtain ⟨m, hm, rfl⟩ := Option.map_eq_some_iff.1 hk
    rw [node?_put_self hp, Option.map_some, hn m hm]
  · rwa [node?_put_of_ne hq]

theorem isFrame_keeps : IsFrame Keeps where
  refl := .refl
  trans := .trans
  tried := keeps_tried
  put {d p n} hp _ := by
    refine keeps_put ?_ fun m hm => by rw [hp] at hm; cases hm
    rintro rfl
    cases hp

theorem isDirectory_top (d : Disk) : d.isDirectory [] = true := rfl

theorem Keeps.isDirectory (h : Keeps d d') (hp : d.isDirectory p = true) :
    d'.isDirectory p = true := by
  have hkind : (d.node? p).map Node.kind = some .directory := by
    rw [of_decide_eq_true hp]
    rfl
  obtain ⟨n, hn, hdirectory⟩ := Option.map_eq_some_iff.1 (h.nodes p _ hkind)
  cases n with
  | directory => exact decide_eq_true hn
  | database db => cases hdirectory
  | foreign => cases hdirectory

theorem Keeps.isSome_node? (h : Keeps d d') (hp : (d.node? p).isSome = true) :
    (d'.node? p).isSome = true := by
  obtain ⟨n, hn⟩ := Option.isSome_iff_exists.1 hp
  have hkind : (d.node? p).map Node.kind = some n.kind := by
    rw [hn]
    rfl
  obtain ⟨n', hn', -⟩ := Option.map_eq_some_iff.1 (h.nodes p _ hkind)
  rw [hn']
  rfl

/-! ## Ways -/

/-- One name further on a way that can be gone. -/
theorem walk_cons_ok {name : String} (h : d.walk here (name :: names) = .ok p) :
    d.isDirectory here = true ∧ (name ≠ ".." → Path.isTooLong name = false ∧
      (d.node? (here ++ [name])).isSome = true) ∧
      d.walk (Path.step here name) names = .ok p := by
  rw [walk] at h
  unfold Path.step
  split at h
  · cases h
  · rename_i hdirectory
    have hdirectory' : d.isDirectory here = true := by simpa using hdirectory
    split at h
    · rename_i hup
      rw [if_pos hup]
      exact ⟨hdirectory', fun hne => absurd hup hne, h⟩
    · rename_i hup
      rw [if_neg hup]
      split at h
      · cases h
      · rename_i hlong
        split at h
        · cases h
        · rename_i hnone
          exact ⟨hdirectory', fun _ => ⟨by simpa using hlong,
            Option.isNone_eq_false_iff.1 (Bool.eq_false_iff.2 hnone)⟩, h⟩

theorem walk_cons {name : String} (hdirectory : d.isDirectory here = true)
    (hname : name ≠ ".." → Path.isTooLong name = false ∧
      (d.node? (here ++ [name])).isSome = true) :
    d.walk here (name :: names) = d.walk (Path.step here name) names := by
  unfold Path.step
  rw [walk, hdirectory, Bool.not_true, if_neg Bool.false_ne_true]
  split
  · rfl
  · rename_i hup
    obtain ⟨hshort, hsome⟩ := hname hup
    rw [hshort, if_neg Bool.false_ne_true, Option.isNone_eq_false_iff.2 hsome,
      if_neg Bool.false_ne_true]

/-- A way ends at the place that the names mean. -/
theorem eq_foldl_of_walk (h : d.walk here names = .ok p) : p = names.foldl Path.step here := by
  induction names generalizing here with
  | nil => exact (Except.ok.inj h).symm
  | cons name rest ih => exact ih (walk_cons_ok h).2.2

theorem Keeps.walk (hkeep : Keeps d d') (h : d.walk here names = .ok p) :
    d'.walk here names = .ok p := by
  induction names generalizing here with
  | nil => exact h
  | cons name rest ih =>
    obtain ⟨hdirectory, hname, hrest⟩ := walk_cons_ok h
    rw [walk_cons (hkeep.isDirectory hdirectory) fun hne =>
      (hname hne).imp_right hkeep.isSome_node?]
    exact ih hrest

/-- A directory that was made can be gone to. -/
theorem walk_of_makeOne (h : d.makeOne here names = .ok d') :
    ∃ p, d'.walk here names = .ok p ∧ d'.isDirectory p = true := by
  have hkeep := isFrame_keeps.makeOne h
  induction names generalizing here with
  | nil => cases h
  | cons name rest ih =>
    cases rest with
    | nil =>
      obtain ⟨hdirectory, hup, hlong, -, rfl⟩ := makeOne_last_ok h
      have hmade : (d.put (here ++ [name]) .directory).node? (here ++ [name]) =
          some .directory := node?_put_self (by simp) d _
      refine ⟨here ++ [name], ?_, decide_eq_true hmade⟩
      rw [walk_cons (hkeep.isDirectory hdirectory) fun _ => ⟨hlong, by rw [hmade]; rfl⟩,
        Path.step, if_neg hup]
      rfl
    | cons next rest =>
      obtain ⟨there, hthere, hrest⟩ := makeOne_further_ok h
      obtain ⟨p, hp, hdirectory⟩ := ih hrest
      refine ⟨p, ?_, hdirectory⟩
      -- the way to the last name was there before, and what is there stays
      rw [← List.singleton_append, walk_append, hkeep.walk hthere]
      exact hp

theorem walk_of_ensureOne (h : d.ensureOne here names = .ok d') :
    ∃ p, d'.walk here names = .ok p ∧ d'.isDirectory p = true := by
  unfold ensureOne at h
  split at h
  · rename_i hmade
    obtain rfl := Except.ok.inj h
    exact walk_of_makeOne hmade
  · split at h
    · rename_i p hp
      split at h
      · rename_i hdirectory
        obtain rfl := Except.ok.inj h
        exact ⟨p, hp, hdirectory⟩
      · cases h
    · cases h
  · cases h

theorem walk_of_ensureAll (hhere : d.isDirectory here = true)
    (h : d.ensureAll here names = (.ok (), d')) :
    ∃ p, d'.walk here names.reverse = .ok p ∧ d'.isDirectory p = true := by
  cases names with
  | nil =>
    obtain ⟨-, rfl⟩ := Prod.mk.inj h
    exact ⟨here, rfl, hhere⟩
  | cons name above =>
    unfold ensureAll at h
    split at h
    · rename_i hone
      obtain ⟨-, rfl⟩ := Prod.mk.inj h
      exact walk_of_ensureOne hone
    · split at h
      · obtain ⟨hfailed, -⟩ := Prod.mk.inj h
        cases hfailed
      · split at h
        · rename_i hone
          obtain ⟨-, rfl⟩ := Prod.mk.inj h
          exact walk_of_ensureOne hone
        · obtain ⟨hfailed, -⟩ := Prod.mk.inj h
          cases hfailed
    · obtain ⟨hfailed, -⟩ := Prod.mk.inj h
      cases hfailed

theorem walk_of_enter (h : d.enter here names = .ok ()) :
    ∃ p, d.walk here names = .ok p ∧ d.isDirectory p = true := by
  unfold enter at h
  split at h
  · rename_i p hp
    split at h
    · rename_i hdirectory
      exact ⟨p, hp, hdirectory⟩
    · cases h
  · cases h

/-- **The way to a directory that was made can be gone**, with all that it leads through. -/
theorem walk_of_makeDirectories {path : String} (hworking : d.isDirectory d.working = true)
    (h : d.makeDirectories path = (.ok (), d')) :
    ∃ p, d'.walk (Path.start d.working path) (Path.names path) = .ok p ∧
      d'.isDirectory p = true := by
  have hstart : d.isDirectory (Path.start d.working path) = true := by
    unfold Path.start
    split
    · exact isDirectory_top d
    · exact hworking
  unfold makeDirectories at h
  dsimp only at h
  split at h
  · obtain ⟨hfailed, -⟩ := Prod.mk.inj h
    cases hfailed
  · split at h
    · split at h
      · split at h
        · obtain ⟨hfailed, -⟩ := Prod.mk.inj h
          cases hfailed
        · obtain ⟨hentered, rfl⟩ := Prod.mk.inj h
          exact walk_of_enter hentered
      · obtain ⟨hentered, rfl⟩ := Prod.mk.inj h
        exact walk_of_enter hentered
    · have hwalk := walk_of_ensureAll hstart h
      rwa [List.reverse_reverse] at hwalk

end Disk

/-! ## Writing -/

variable {d d' : Disk} {config : Config} {t : Tenant}

theorem Handle.keeps_write {h : Handle} {db written : Database} (hdb : h.database d = .ok db)
    (hwrite : h.write d written = .ok d') : d.Keeps d' := by
  rcases Handle.write_spec hwrite with ⟨-, rfl⟩ | ⟨p, hp, rfl⟩
  · exact .refl _
  · have hdb' := Store.database_of_place? hdb hp
    refine d.keeps_tried.trans (Disk.keeps_put (Disk.ne_nil_of_database hdb') fun m hm => ?_)
    rw [Disk.node?_tried, Disk.node?_of_database hdb'] at hm
    obtain rfl := Option.some.inj hm
    rfl

theorem Store.keeps_ensureTable {h : Handle} {u : Table} (hmade : ensureTable d h u = .ok d') :
    d.Keeps d' := by
  obtain ⟨db, hdb, rfl | ⟨-, hwrite⟩⟩ := ensureTable_ok hmade
  · exact .refl _
  · exact Handle.keeps_write hdb hwrite

theorem Store.keeps_insertInto {h : Handle} {actions : Actions} {name : String}
    {rows : List (List (String × Cell))} (hmade : insertInto d h actions name rows = .ok d') :
    d.Keeps d' := by
  obtain ⟨db, u, x, written, hdb, -, -, hwrite, rfl | rfl⟩ := insertInto_ok hmade
  · exact Handle.keeps_write hdb hwrite
  · exact (Handle.keeps_write hdb hwrite).trans written.keeps_tried

/-! ## Growing -/

/-- A relation of a disk to later ones that minds nothing the store does to a disk. -/
structure IsGrowth (R : Disk → Disk → Prop) : Prop extends Disk.IsFrame R where
  facing (d : Disk) (outages : List Bool) : R d (d.facing outages)
  ensureTable {d d' : Disk} {h : Handle} {u : Table} (hmade : Store.ensureTable d h u = .ok d') :
    R d d'
  insertInto {d d' : Disk} {h : Handle} {actions : Store.Actions} {name : String}
    {rows : List (List (String × Cell))}
    (hmade : Store.insertInto d h actions name rows = .ok d') : R d d'

theorem isGrowth_keeps : IsGrowth Disk.Keeps where
  toIsFrame := Disk.isFrame_keeps
  facing := Disk.keeps_facing
  ensureTable := Store.keeps_ensureTable
  insertInto := Store.keeps_insertInto

namespace IsGrowth

variable {R : Disk → Disk → Prop} (hR : IsGrowth R)

include hR

theorem ofText {path : String} {access : Access} {h : Handle}
    (hopen : Handle.ofText d access path = .ok (h, d')) : R d d' := by
  obtain ⟨a, -, hopen⟩ := bind_eq_ok_iff.1 hopen
  dsimp only at hopen
  split at hopen
  · obtain ⟨-, rfl⟩ := Prod.mk.inj (Except.ok.inj hopen)
    exact hR.refl d
  · split at hopen
    · cases hopen
    · obtain ⟨opened, hat, hopen⟩ := bind_eq_ok_iff.1 hopen
      obtain ⟨-, rfl⟩ := Prod.mk.inj (Except.ok.inj hopen)
      exact hR.openAt hat

theorem insertAt (d : Disk) (t : Tenant) (path : String) (actions : Store.Actions) (name : String)
    (rows : List (List (String × Cell))) : R d (Store.insertAt d t path actions name rows).2 := by
  unfold Store.insertAt
  split
  · exact hR.refl d
  · rename_i hopen
    split
    · exact hR.ofText hopen
    · rename_i hinsert
      exact hR.trans (hR.ofText hopen) (hR.insertInto hinsert)

theorem ensureLedger (config : Config) (d : Disk) (t : Tenant) :
    R d (Store.ensureLedger config d t).2 := by
  have hdirectories := hR.makeDirectories d config.dataDir
  unfold Store.ensureLedger
  split
  · rename_i heq
    rwa [heq] at hdirectories
  · rename_i heq
    rw [heq] at hdirectories
    split
    · exact hdirectories
    · rename_i hopen
      have hopened := hR.trans hdirectories (hR.ofText hopen)
      split
      · exact hopened
      · rename_i hmade
        exact hR.trans hopened (hR.ensureTable hmade)

theorem ensureMaster (config : Config) (d : Disk) : R d (Store.ensureMaster config d).2 := by
  have hdirectories := hR.makeDirectories d (Path.above config.masterPath)
  unfold Store.ensureMaster
  split
  · rename_i heq
    rwa [heq] at hdirectories
  · rename_i heq
    rw [heq] at hdirectories
    split
    · exact hdirectories
    · rename_i hopen
      have hopened := hR.trans hdirectories (hR.ofText hopen)
      split
      · exact hopened
      · rename_i hmade
        exact hR.trans hopened (hR.ensureTable hmade)

theorem appendToLedger (config : Config) (d : Disk) (t : Tenant) (sales : List Sale) :
    R d (Store.appendToLedger config d t sales).2 := by
  have hmade := hR.ensureLedger config d t
  unfold Store.appendToLedger
  split
  · rename_i heq
    rwa [heq] at hmade
  · rename_i heq
    rw [heq] at hmade
    exact hR.trans hmade (hR.insertAt ..)

theorem appendToMaster (config : Config) (d : Disk) (t : Tenant) (sales : List Sale) :
    R d (Store.appendToMaster config d t sales).2 := by
  have hmade := hR.ensureMaster config d
  unfold Store.appendToMaster
  split
  · rename_i heq
    rwa [heq] at hmade
  · rename_i heq
    rw [heq] at hmade
    exact hR.trans hmade (hR.insertAt ..)

/-- **Appending sales lets a disk grow**, whether it succeeds or not. -/
theorem append (config : Config) (d : Disk) (t : Tenant) (sales : List Sale) :
    R d (Store.append config d t sales).2 := by
  have hledger := hR.appendToLedger config d t sales
  unfold Store.append
  split
  · exact hR.refl d
  · split
    · rename_i heq
      rwa [heq] at hledger
    · rename_i made heq
      rw [heq] at hledger
      have hmaster := hR.trans hledger (hR.appendToMaster config made t sales)
      split
      · rename_i heq
        rwa [heq] at hmaster
      · rename_i heq
        rwa [heq] at hmaster

end IsGrowth

namespace Store

theorem keeps_ensureLedger (config : Config) (d : Disk) (t : Tenant) :
    d.Keeps (ensureLedger config d t).2 := isGrowth_keeps.ensureLedger config d t

theorem keeps_ensureMaster (config : Config) (d : Disk) : d.Keeps (ensureMaster config d).2 :=
  isGrowth_keeps.ensureMaster config d

theorem keeps_appendToLedger (config : Config) (d : Disk) (t : Tenant) (sales : List Sale) :
    d.Keeps (appendToLedger config d t sales).2 := isGrowth_keeps.appendToLedger config d t sales

theorem keeps_appendToMaster (config : Config) (d : Disk) (t : Tenant) (sales : List Sale) :
    d.Keeps (appendToMaster config d t sales).2 := isGrowth_keeps.appendToMaster config d t sales

end Store

/-! ## Ledgers -/

namespace Handle

/-- A way that can be gone stays open, however the disk goes on. -/
theorem isBarred_of_walk {here p : Place} {names : List String}
    (hopen : isBarred d here names = false) (hwalk : d'.walk here names = .ok p) :
    isBarred d' here names = false := by
  induction names generalizing here with
  | nil => rfl
  | cons name rest ih =>
    obtain ⟨hdirectory, -, hrest⟩ := Disk.walk_cons_ok hwalk
    have hnode : d'.node? here = some .directory := of_decide_eq_true hdirectory
    rw [isBarred, Bool.or_eq_false_iff] at hopen ⊢
    refine ⟨?_, ih hopen.2 hrest⟩
    have hfirst := hopen.1
    simp only [hnode, Bool.and_eq_false_iff, Bool.or_eq_false_iff] at hfirst ⊢
    rcases hfirst with hup | ⟨hshort, -⟩
    · exact .inl hup
    · exact .inr ⟨hshort, by simp⟩

/-- What has to be so that the path of a ledger can be opened. -/
theorem ofText_ledgerPath_ok (hdir : config.HasPlainDirectory) {access : Access}
    (haccess : access ≠ .memory) {h : Handle}
    (hopen : ofText d access (Store.ledgerPath config t) = .ok (h, d')) :
    isBarred d (Path.start d.working (Store.ledgerPath config t))
        (Path.names (Store.ledgerPath config t)) = false ∧
      isOutOfReach (Path.place d.working (Store.ledgerPath config t)) = false := by
  obtain ⟨-, hbarred, hat⟩ :=
    eq_of_ofText (ofText_ledgerPath hdir t access) (isTransient_ledgerPath t haccess false) hopen
  exact ⟨hbarred, isOutOfReach_of_openAt hat⟩

end Handle

namespace Store

/-- The way to a tenant's ledger is free, and its place is not too far for a database. -/
structure IsReachable (config : Config) (d : Disk) (t : Tenant) : Prop where
  walk : d.walk (Path.start d.working (ledgerPath config t)) (Path.names (ledgerPath config t)) =
    .ok (Path.place d.working (ledgerPath config t))
  isBarred : Handle.isBarred d (Path.start d.working (ledgerPath config t))
    (Path.names (ledgerPath config t)) = false
  isOutOfReach : Handle.isOutOfReach (Path.place d.working (ledgerPath config t)) = false

theorem IsReachable.keep (h : IsReachable config d t) (hkeep : d.Keeps d') :
    IsReachable config d' t := by
  have hwalk := hkeep.walk h.walk
  refine ⟨?_, ?_, ?_⟩
  · rw [hkeep.working]
    exact hwalk
  · rw [hkeep.working]
    exact Handle.isBarred_of_walk h.isBarred hwalk
  · rw [hkeep.working]
    exact h.isOutOfReach

theorem isTooLong_ledgerFile (t : Tenant) : Path.isTooLong t.ledgerFile = false := by
  have hsize : t.id.utf8ByteSize ≤ 32 := t.wellFormed.2.1
  have hfile : t.ledgerFile.utf8ByteSize = 6 + t.id.utf8ByteSize + 3 := by
    rw [Tenant.ledgerFile, String.utf8ByteSize_append, String.utf8ByteSize_append]
    rfl
  unfold Path.isTooLong Path.longestName
  rw [hfile]
  exact decide_eq_false (by omega)

/-- The way to a ledger is that to its directory and the name of its file. -/
theorem walk_ledgerPath {q : Place}
    (hwalk : d.walk (Path.start d.working config.dataDir) (Path.names config.dataDir) = .ok q)
    (hdirectory : d.isDirectory q = true)
    (hsome : (d.node? (Path.place d.working (ledgerPath config t))).isSome = true) :
    d.walk (Path.start d.working (ledgerPath config t)) (Path.names (ledgerPath config t)) =
      .ok (Path.place d.working (ledgerPath config t)) := by
  have hslash := slash_not_mem_ledgerFile t
  have hidle := isIdle_ledgerFile t
  have hup : t.ledgerFile ≠ ".." := ledgerFile_ne (by decide)
  have hplace : Path.place d.working (ledgerPath config t) = q ++ [t.ledgerFile] := by
    rw [ledgerPath, Path.place_join _ _ hslash hidle hup, Disk.eq_foldl_of_walk hwalk]
    rfl
  rw [hplace] at hsome ⊢
  rw [ledgerPath, Path.names_join _ hslash hidle, Path.start_join _ _ hslash, Disk.walk_append,
    hwalk, Except.bind,
    Disk.walk_cons hdirectory fun _ => ⟨isTooLong_ledgerFile t, hsome⟩, Path.step, if_neg hup]
  rfl

/-- Where a ledger was made, the way to its directory can be gone. -/
theorem walk_of_ensureLedger (hworking : d.isDirectory d.working = true)
    (h : ensureLedger config d t = (.ok (), d')) :
    ∃ q, d'.walk (Path.start d'.working config.dataDir) (Path.names config.dataDir) = .ok q ∧
      d'.isDirectory q = true := by
  have hkeep : d.Keeps d' := by
    have hmade := keeps_ensureLedger config d t
    rwa [h] at hmade
  unfold ensureLedger at h
  split at h
  · cases (Prod.mk.inj h).1
  · rename_i made hdirectories
    obtain ⟨q, hwalk, hdirectory⟩ := Disk.walk_of_makeDirectories hworking hdirectories
    have hlater : made.Keeps d' := by
      split at h
      · cases (Prod.mk.inj h).1
      · rename_i hopen
        split at h
        · cases (Prod.mk.inj h).1
        · rename_i hmade
          obtain rfl := (Prod.mk.inj h).2
          exact (isGrowth_keeps.ofText hopen).trans (keeps_ensureTable hmade)
    refine ⟨q, ?_, hlater.isDirectory hdirectory⟩
    rw [hkeep.working]
    exact hlater.walk hwalk

/-- Where rows went in, a database could be opened, and stands there now. -/
theorem opened_of_insertAt {path : String} {p : Place} {actions : Actions} {name : String}
    {rows : List (List (String × Cell))} (hplace : placeOf? d.working path = some p)
    (h : insertAt d t path actions name rows = (.ok (), d')) :
    (∃ handle opened, Handle.ofText d .create path = .ok (handle, opened)) ∧
      (d'.node? p).isSome = true := by
  refine ⟨?_, ?_⟩
  · unfold insertAt at h
    split at h
    · cases (Prod.mk.inj h).1
    · rename_i hopen
      exact ⟨_, _, hopen⟩
  · rcases insertAt_cases h with ⟨f, hfailed, -⟩ | ⟨p', u, x, -, hp, -, -, -, htables⟩
    · cases hfailed
    · obtain rfl : p = p' := Option.some.inj (hplace.symm.trans hp)
      have htable := htables p x.table.name
      rw [if_pos ⟨rfl, Text.equalAscii_refl _⟩] at htable
      cases hnode : d'.node? p with
      | none =>
        rw [Disk.table?, hnode] at htable
        cases htable
      | some n => rfl

/-- **A ledger that sales were written to is reachable.** -/
theorem isReachable_of_appendToLedger (hdir : config.HasPlainDirectory)
    (hworking : d.isDirectory d.working = true) {sales : List Sale}
    (h : appendToLedger config d t sales = (.ok (), d')) : IsReachable config d' t := by
  unfold appendToLedger at h
  split at h
  · cases (Prod.mk.inj h).1
  · rename_i made hmade
    obtain ⟨q, hwalk, hdirectory⟩ := walk_of_ensureLedger hworking hmade
    have hkeep : made.Keeps d' := by
      have hinserted := isGrowth_keeps.insertAt made t (ledgerPath config t) ledgerActions Ledger.table
        (sales.map Sale.values)
      rwa [h] at hinserted
    obtain ⟨⟨handle, opened, hopen⟩, hsome⟩ :=
      opened_of_insertAt (placeOf?_ledgerPath hdir made.working t) h
    obtain ⟨hbarred, hreach⟩ := Handle.ofText_ledgerPath_ok hdir (by decide) hopen
    rw [← hkeep.working] at hbarred hreach hsome
    have hreached : d'.walk (Path.start d'.working (ledgerPath config t))
        (Path.names (ledgerPath config t)) = .ok (Path.place d'.working (ledgerPath config t)) :=
      walk_ledgerPath (hkeep.working ▸ hkeep.walk hwalk) (hkeep.isDirectory hdirectory) hsome
    exact ⟨hreached, Handle.isBarred_of_walk hbarred hreached, hreach⟩

end Store

end SalesLedger.Storage
