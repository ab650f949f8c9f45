import SalesLedger.Storage.Store

/-!
# What databases hold

The tables of a disk (`Disk.table?`) and what each step of the store does to them.

* `Disk.SameTables`: no table differs. Making directories and opening databases keep all tables as
  they are (`sameTables_makeDirectories`, `Handle.ofText_spec`), as they keep everything that does
  not mind what is put where nothing stood (`Disk.IsFrame`).
* `table?_of_ensureTable`: a table that is made stands where none stood.
* `table?_of_insertInto`, `insertAt_cases`: rows go into one table of one place, or nothing changes.

The place of a database does not depend on how it is opened: `placeOf?` is where a path leads, and
`Handle.ofText_spec` says that an opened database is there.
-/

namespace SalesLedger.Storage

open Sql

/-! ## Databases -/

namespace Database

theorem table?_cons (u : Table) (db : Database) (name : String) :
    Database.table? (u :: db) name =
      if Text.equalAscii u.name name then some u else db.table? name := by
  rw [table?, List.find?_cons]
  cases Text.equalAscii u.name name <;> rfl

theorem table?_append (db more : Database) (name : String) :
    Database.table? (db ++ more) name = (db.table? name).or (Database.table? more name) :=
  List.find?_append

/-- Names that differ in the case of letters only mean the same table. -/
theorem table?_congr {db : Database} {name other : String}
    (h : Text.equalAscii name other = true) : db.table? name = db.table? other := by
  induction db with
  | nil => rfl
  | cons u rest ih =>
    have hsame : Text.equalAscii u.name name = Text.equalAscii u.name other := by
      rw [Bool.eq_iff_iff]
      exact ⟨fun hu => Text.equalAscii_trans hu h,
        fun hu => Text.equalAscii_trans hu (Text.equalAscii_symm h)⟩
    rw [table?_cons, table?_cons, hsame, ih]

theorem table?_put_self (db : Database) {t : Table} {name : String}
    (h : Text.equalAscii t.name name = true) : (db.put t).table? name = some t := by
  induction db with
  | nil => rw [put, table?_cons, if_pos h]
  | cons u rest ih =>
    unfold put
    split
    · rw [table?_cons, if_pos h]
    · rename_i hu
      have hname : ¬ Text.equalAscii u.name name = true := fun hun =>
        hu (Text.equalAscii_trans hun (Text.equalAscii_symm h))
      rw [table?_cons, if_neg hname]
      exact ih

theorem table?_put_of_ne (db : Database) {t : Table} {name : String}
    (h : ¬ Text.equalAscii t.name name = true) : (db.put t).table? name = db.table? name := by
  induction db with
  | nil =>
    rw [put, table?_cons, if_neg h]
  | cons u rest ih =>
    unfold put
    split
    · rename_i hu
      have hname : ¬ Text.equalAscii u.name name = true := fun hun =>
        h (Text.equalAscii_trans (Text.equalAscii_symm hu) hun)
      rw [table?_cons, table?_cons, if_neg h, if_neg hname]
    · rw [table?_cons, table?_cons, ih]

end Database

/-! ## Tables of a disk -/

namespace Disk

/-- The table with a name in the database at a place. -/
def table? (d : Disk) (p : Place) (name : String) : Option Table :=
  match d.node? p with
  | some (.database db) => db.table? name
  | _ => none

/-- Two disks with the same tables, seen from the same directory. -/
structure SameTables (d d' : Disk) : Prop where
  working : d'.working = d.working
  tables : ∀ p name, d'.table? p name = d.table? p name

theorem SameTables.refl (d : Disk) : SameTables d d := ⟨rfl, fun _ _ => rfl⟩

theorem SameTables.trans {d d' d'' : Disk} (h : SameTables d d') (h' : SameTables d' d'') :
    SameTables d d'' :=
  ⟨h'.working.trans h.working, fun p name => (h'.tables p name).trans (h.tables p name)⟩

theorem sameTables_tried (d : Disk) : SameTables d d.tried := ⟨rfl, fun _ _ => rfl⟩

theorem sameTables_facing (d : Disk) (outages : List Bool) : SameTables d (d.facing outages) :=
  ⟨rfl, fun _ _ => rfl⟩

theorem table?_of_node? {d d' : Disk} {p : Place} (h : d'.node? p = d.node? p) (name : String) :
    d'.table? p name = d.table? p name := by
  rw [table?, table?, h]

theorem node?_of_database {d : Disk} {p : Place} {db : Database} (h : d.database p = .ok db) :
    d.node? p = some (.database db) := by
  unfold database at h
  split at h
  · rename_i hnode
    rw [hnode, Except.ok.inj h]
  · cases h

theorem table?_of_database {d : Disk} {p : Place} {db : Database} (h : d.database p = .ok db)
    (name : String) : d.table? p name = db.table? name := by
  rw [table?, node?_of_database h]

theorem ne_nil_of_database {d : Disk} {p : Place} {db : Database} (h : d.database p = .ok db) :
    p ≠ [] := by
  rintro rfl
  unfold database node? at h
  rw [if_pos rfl] at h
  cases h

/-- What is put where nothing was has no tables yet. -/
theorem sameTables_put {d : Disk} {p : Place} {n : Node} (hp : d.node? p = none)
    (hn : n = .directory ∨ n = .database []) : SameTables d (d.put p n) := by
  refine ⟨rfl, fun q name => ?_⟩
  by_cases hq : q = p
  · have hne : p ≠ [] := by
      rintro rfl
      rw [node?, if_pos rfl] at hp
      cases hp
    subst hq
    unfold table?
    rw [hp, node?_put_self hne]
    rcases hn with rfl | rfl <;> rfl
  · exact table?_of_node? (node?_put_of_ne hq d n) name

/-! ## Directories -/

/-- A relation of a disk to later ones that does not mind tries, nor directories and empty databases
that are put where nothing stood. -/
structure IsFrame (R : Disk → Disk → Prop) : Prop where
  refl (d : Disk) : R d d
  trans {d d' d'' : Disk} : R d d' → R d' d'' → R d d''
  tried (d : Disk) : R d d.tried
  put {d : Disk} {p : Place} {n : Node} (hp : d.node? p = none)
    (hn : n = .directory ∨ n = .database []) : R d (d.put p n)

theorem isFrame_sameTables : IsFrame SameTables :=
  ⟨.refl, .trans, sameTables_tried, sameTables_put⟩

section

variable {R : Disk → Disk → Prop} (hR : IsFrame R)

include hR

theorem IsFrame.makeOne {d d' : Disk} {here : Place} {names : List String}
    (h : d.makeOne here names = .ok d') : R d d' := by
  induction names generalizing here with
  | nil => cases h
  | cons name rest ih =>
    cases rest with
    | nil =>
      obtain ⟨-, -, -, hnone, rfl⟩ := makeOne_last_ok h
      exact hR.put hnone (.inl rfl)
    | cons next rest =>
      obtain ⟨there, -, hrest⟩ := makeOne_further_ok h
      exact ih hrest

theorem IsFrame.ensureOne {d d' : Disk} {here : Place} {names : List String}
    (h : d.ensureOne here names = .ok d') : R d d' := by
  unfold Disk.ensureOne at h
  split at h
  · rename_i hmade
    obtain rfl := Except.ok.inj h
    exact hR.makeOne hmade
  · split at h
    · split at h
      · obtain rfl := Except.ok.inj h
        exact hR.refl d
      · cases h
    · cases h
  · cases h

theorem IsFrame.ensureAll (d : Disk) (here : Place) (names : List String) :
    R d (d.ensureAll here names).2 := by
  induction names generalizing d with
  | nil => exact hR.refl d
  | cons name above ih =>
    unfold Disk.ensureAll
    split
    · rename_i hone
      exact hR.ensureOne hone
    · have hall := ih d
      split
      · rename_i heq
        rw [heq] at hall
        exact hall
      · rename_i heq
        rw [heq] at hall
        split
        · rename_i hone
          exact hR.trans hall (hR.ensureOne hone)
        · exact hall
    · exact hR.refl d

theorem IsFrame.makeDirectories (d : Disk) (path : String) :
    R d (d.makeDirectories path).2 := by
  unfold Disk.makeDirectories
  dsimp only
  split
  · exact hR.refl d
  · split
    · split
      · have hall := hR.ensureAll d (Path.start d.working path)
          ((Path.names path).reverse.drop 1)
        split
        · rename_i heq
          rw [heq] at hall
          exact hall
        · rename_i heq
          rw [heq] at hall
          exact hall
      · exact hR.refl d
    · exact hR.ensureAll d _ _

theorem IsFrame.openAt {d d' : Disk} {p : Place} {access : Access} {path : String}
    (h : Handle.openAt d p access path = .ok d') : R d d' := by
  unfold Handle.openAt at h
  split at h
  · cases h
  · split at h
    · cases h
    · obtain rfl := Except.ok.inj h
      exact hR.tried d
    · rename_i hnone
      split at h
      · obtain rfl := Except.ok.inj h
        exact hR.trans (hR.tried d) (hR.put hnone (.inr rfl))
      · cases h

end

/-- **Making directories changes no table.** -/
theorem sameTables_makeDirectories (d : Disk) (path : String) :
    SameTables d (d.makeDirectories path).2 := isFrame_sameTables.makeDirectories d path

end Disk

/-! ## Opening -/

/-- Where a path leads to a database that is kept. -/
def placeOf? (working : Place) (path : String) : Option Place :=
  match Address.ofText .create path with
  | .ok a => if a.isTransient then none else some (Path.place working a.path)
  | .error _ => none

namespace Handle

/-- A path that is no address is opened as it is written. -/
theorem ofText_of_plain {path : String} {access : Access} (d : Disk)
    (haddress : Address.ofText access path = .ok ⟨path, access, false⟩)
    (hkept : Address.isTransient ⟨path, access, false⟩ = false) :
    ofText d access path =
      if isBarred d (Path.start d.working path) (Path.names path) then .error (.cannotOpen path)
      else (openAt d (Path.place d.working path) access path).map fun opened =>
        (⟨some (Path.place d.working path), access ≠ .readOnly⟩, opened) := by
  have hwritable : Address.isWritable ⟨path, access, false⟩ = decide (access ≠ .readOnly) := by
    simp [Address.isWritable]
  unfold ofText
  rw [haddress]
  simp only [bind, Except.bind, hkept, Bool.false_eq_true, if_false, hwritable, Disk.place]
  split
  · rfl
  · cases openAt d (Path.place d.working path) access path <;> rfl

/-- What is opened at such a path. -/
theorem eq_of_ofText {d d' : Disk} {path : String} {access : Access} {h : Handle}
    (haddress : Address.ofText access path = .ok ⟨path, access, false⟩)
    (hkept : Address.isTransient ⟨path, access, false⟩ = false)
    (hopen : ofText d access path = .ok (h, d')) :
    h = ⟨some (Path.place d.working path), access ≠ .readOnly⟩ ∧
      isBarred d (Path.start d.working path) (Path.names path) = false ∧
      openAt d (Path.place d.working path) access path = .ok d' := by
  rw [ofText_of_plain d haddress hkept] at hopen
  split at hopen
  · cases hopen
  · rename_i hbarred
    cases hat : openAt d (Path.place d.working path) access path with
    | error f =>
      rw [hat] at hopen
      cases hopen
    | ok opened =>
      rw [hat] at hopen
      obtain ⟨rfl, rfl⟩ := Prod.mk.inj (Except.ok.inj hopen)
      exact ⟨rfl, by simpa using hbarred, rfl⟩

/-- What is opened is not too far for a database. -/
theorem isOutOfReach_of_openAt {d d' : Disk} {p : Place} {access : Access} {path : String}
    (h : openAt d p access path = .ok d') : isOutOfReach p = false := by
  unfold openAt at h
  split at h
  · cases h
  · rename_i hreach
    exact Bool.eq_false_iff.2 (not_or.1 hreach).1

/-- **Opening a database changes no table**, and what is opened is where the path leads. -/
theorem ofText_spec {d d' : Disk} {path : String} {h : Handle}
    (hopen : ofText d .create path = .ok (h, d')) :
    d.SameTables d' ∧ h.place? = placeOf? d.working path := by
  obtain ⟨a, ha, hopen⟩ := bind_eq_ok_iff.1 hopen
  unfold placeOf?
  rw [ha]
  dsimp only at hopen ⊢
  split at hopen
  · rename_i htransient
    obtain ⟨rfl, rfl⟩ := Prod.mk.inj (Except.ok.inj hopen)
    exact ⟨.refl d, (if_pos htransient).symm⟩
  · rename_i htransient
    split at hopen
    · cases hopen
    · obtain ⟨opened, hat, hopen⟩ := bind_eq_ok_iff.1 hopen
      obtain ⟨rfl, rfl⟩ := Prod.mk.inj (Except.ok.inj hopen)
      exact ⟨Disk.isFrame_sameTables.openAt hat, (if_neg htransient).symm⟩

/-- Writing puts a database where the opened one is, or is in vain where nothing is kept. -/
theorem write_spec {d d' : Disk} {h : Handle} {db : Database} (hw : h.write d db = .ok d') :
    (h.place? = none ∧ d' = d) ∨
      ∃ p, h.place? = some p ∧ d' = d.tried.put p (.database db) := by
  unfold write at hw
  split at hw
  · cases hw
  · split at hw
    · rename_i hp
      exact .inl ⟨hp, (Except.ok.inj hw).symm⟩
    · rename_i p hp
      split at hw
      · cases hw
      · split at hw
        · cases hw
        · exact .inr ⟨p, hp, (Except.ok.inj hw).symm⟩

end Handle

theorem Disk.table?_put_database {d : Disk} {p : Place} (hp : p ≠ []) (db : Database)
    (q : Place) (name : String) :
    (d.put p (.database db)).table? q name = if q = p then db.table? name else d.table? q name := by
  split
  · rename_i hq
    subst hq
    rw [table?, node?_put_self hp]
  · rename_i hq
    exact table?_of_node? (node?_put_of_ne hq d _) name

/-! ## Writing -/

namespace Store

theorem database_of_place? {d : Disk} {h : Handle} {db : Database} {p : Place}
    (hdb : h.database d = .ok db) (hp : h.place? = some p) : d.database p = .ok db := by
  rw [Handle.database, hp] at hdb
  exact hdb

/-- **A table is made where none was**; all others stay as they are. -/
theorem table?_of_ensureTable {d d' : Disk} {h : Handle} {t : Table}
    (hmade : ensureTable d h t = .ok d') :
    d'.working = d.working ∧ ∀ q name, d'.table? q name = d.table? q name ∨
      (h.place? = some q ∧ d.table? q t.name = none ∧ Text.equalAscii t.name name = true ∧
        d'.table? q name = some t) := by
  obtain ⟨db, hdb, rfl | ⟨hfree, hwrite⟩⟩ := ensureTable_ok hmade
  · exact ⟨rfl, fun _ _ => .inl rfl⟩
  · rcases Handle.write_spec hwrite with ⟨-, rfl⟩ | ⟨p, hp, rfl⟩
    · exact ⟨rfl, fun _ _ => .inl rfl⟩
    · have hdb' := database_of_place? hdb hp
      refine ⟨rfl, fun q name => ?_⟩
      rw [Disk.table?_put_database (Disk.ne_nil_of_database hdb')]
      split
      · rename_i hq
        subst hq
        rw [Disk.table?_of_database hdb', Disk.table?_of_database hdb', Database.table?_append]
        by_cases hname : Text.equalAscii t.name name = true
        · refine .inr ⟨hp, hfree, hname, ?_⟩
          rw [← Database.table?_congr hname, hfree, Option.none_or, Database.table?_cons,
            if_pos hname]
        · left
          rw [Database.table?_cons, if_neg hname]
          exact Option.or_none
      · exact .inl rfl

/-- **What is inserted goes into one table of one place**, and the transaction ends well. -/
theorem table?_of_insertInto {d d' : Disk} {h : Handle} {actions : Actions} {name : String}
    {rows : List (List (String × Cell))} (hmade : insertInto d h actions name rows = .ok d') :
    ∃ p u x, h.place? = some p ∧ d.table? p name = some u ∧
      (Transaction.start u).insertAll rows = .ok x ∧ d'.working = d.working ∧
      ∀ q other, d'.table? q other =
        if q = p ∧ Text.equalAscii x.table.name other = true then some x.table
        else d.table? q other := by
  obtain ⟨db, u, x, written, hdb, hu, hx, hwrite, hafter⟩ := insertInto_ok hmade
  have hsame : written.SameTables d' := by
    rcases hafter with rfl | rfl
    · exact .refl _
    · exact written.sameTables_tried
  rcases Handle.write_spec hwrite with ⟨hnone, -⟩ | ⟨p, hp, rfl⟩
  · -- where nothing is kept there is no table to insert into
    rw [Handle.database, hnone] at hdb
    obtain rfl := Except.ok.inj hdb
    cases hu
  · have hdb' := database_of_place? hdb hp
    refine ⟨p, u, x, hp, (Disk.table?_of_database hdb' name).trans hu, hx, hsame.working,
      fun q other => ?_⟩
    rw [hsame.tables, Disk.table?_put_database (Disk.ne_nil_of_database hdb')]
    by_cases hq : q = p
    · subst hq
      rw [if_pos rfl]
      by_cases hname : Text.equalAscii x.table.name other = true
      · rw [if_pos ⟨rfl, hname⟩, Database.table?_put_self db hname]
      · rw [if_neg fun hand => hname hand.2, Database.table?_put_of_ne db hname]
        exact (Disk.table?_of_database hdb' other).symm
    · rw [if_neg hq, if_neg fun hand => hq hand.1]
      rfl

/-- **Inserting at a path** fails and changes no table, or fills one table of one place. -/
theorem insertAt_cases {d d' : Disk} {t : Tenant} {path : String} {actions : Actions}
    {name : String} {rows : List (List (String × Cell))} {r : Except Failure Unit}
    (h : insertAt d t path actions name rows = (r, d')) :
    (∃ f, r = .error f ∧ d.SameTables d') ∨
      ∃ p u x, r = .ok () ∧ placeOf? d.working path = some p ∧ d.table? p name = some u ∧
        (Transaction.start u).insertAll rows = .ok x ∧ d'.working = d.working ∧
        ∀ q other, d'.table? q other =
          if q = p ∧ Text.equalAscii x.table.name other = true then some x.table
          else d.table? q other := by
  unfold insertAt at h
  split at h
  · obtain ⟨rfl, rfl⟩ := Prod.mk.inj h
    exact .inl ⟨_, rfl, .refl d⟩
  · rename_i opened hopen
    obtain ⟨hsame, hplace⟩ := Handle.ofText_spec hopen
    split at h
    · obtain ⟨rfl, rfl⟩ := Prod.mk.inj h
      exact .inl ⟨_, rfl, hsame⟩
    · rename_i inserted hinsert
      obtain ⟨rfl, rfl⟩ := Prod.mk.inj h
      obtain ⟨p, u, x, hp, hu, hx, hworking, htables⟩ := table?_of_insertInto hinsert
      refine .inr ⟨p, u, x, rfl, hplace ▸ hp, (hsame.tables p name) ▸ hu, hx,
        hworking.trans hsame.working, fun q other => ?_⟩
      rw [htables, hsame.tables]

end Store

end SalesLedger.Storage
