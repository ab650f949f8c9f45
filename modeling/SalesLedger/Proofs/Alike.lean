import Mathlib.Data.Set.Insert
import SalesLedger.Proofs.Contents

/-!
# Disks that are alike

Two disks that agree on some places (`Disk.Alike`) cannot be told apart by what looks at and writes
to these places alone: it ends with one answer on both, and leaves disks that agree on them again.

* `Agrees`: two results with one error, or with values in a relation; steps that agree can be put
  together (`Agrees.bind`).
* `openAt_agrees`, `write_agrees`, `settle_agrees`: what a handle does at one of the places.
* `ensureTable_agrees`, `insertInto_agrees`, `insertAt_agrees`: what the store does with it.
-/

namespace SalesLedger.Storage

open Sql

/-- Two results that end alike: with one error, or with values that are related. -/
inductive Agrees {ε α β : Type} (R : α → β → Prop) : Except ε α → Except ε β → Prop where
  | ok {a : α} {b : β} (h : R a b) : Agrees R (.ok a) (.ok b)
  | error (e : ε) : Agrees R (.error e) (.error e)

namespace Agrees

variable {ε ε' α β γ δ : Type} {R : α → β → Prop} {S : γ → δ → Prop} {x : Except ε α}
  {y : Except ε β}

theorem bind (h : Agrees R x y) {f : α → Except ε γ} {g : β → Except ε δ}
    (hfg : ∀ a b, R a b → Agrees S (f a) (g b)) : Agrees S (x >>= f) (y >>= g) := by
  cases h with
  | ok hab => exact hfg _ _ hab
  | error e => exact .error e

theorem map (h : Agrees R x y) {f : α → γ} {g : β → δ} (hfg : ∀ a b, R a b → S (f a) (g b)) :
    Agrees S (x.map f) (y.map g) := by
  cases h with
  | ok hab => exact .ok (hfg _ _ hab)
  | error e => exact .error e

/-- How two results agree. -/
theorem split (h : Agrees R x y) : (∃ e, x = .error e ∧ y = .error e) ∨
    ∃ a b, x = .ok a ∧ y = .ok b ∧ R a b := by
  cases h with
  | ok hab => exact .inr ⟨_, _, rfl, rfl, hab⟩
  | error e => exact .inl ⟨e, rfl, rfl⟩

theorem during {x : Except Fault α} {y : Except Fault β} (h : Agrees R x y) (action : String) :
    Agrees R (Store.during action x) (Store.during action y) := by
  cases h with
  | ok hab => exact .ok hab
  | error e => exact .error (action, e)

end Agrees

namespace Disk

/-- Two disks that agree on some places, seen from one directory, with the same tries ahead. -/
structure Alike (S : Set Place) (d d' : Disk) : Prop where
  working : d'.working = d.working
  outages : d'.outages = d.outages
  nodes : ∀ p ∈ S, d'.node? p = d.node? p

namespace Alike

variable {S T : Set Place} {d d' : Disk} (h : Alike S d d')

include h

theorem mono (hST : T ⊆ S) : Alike T d d' :=
  ⟨h.working, h.outages, fun p hp => h.nodes p (hST hp)⟩

theorem refuses : d'.refuses = d.refuses := by
  rw [Disk.refuses, Disk.refuses, h.outages]

theorem tried : Alike S d.tried d'.tried :=
  ⟨h.working, congrArg List.tail h.outages, h.nodes⟩

theorem facing (outages : List Bool) : Alike S (d.facing outages) (d'.facing outages) :=
  ⟨h.working, rfl, h.nodes⟩

theorem put (p : Place) (n : Node) : Alike S (d.put p n) (d'.put p n) := by
  refine ⟨h.working, h.outages, fun q hq => ?_⟩
  by_cases hqp : q = p
  · subst hqp
    by_cases htop : q = []
    · rw [node?, node?, if_pos htop, if_pos htop]
    · rw [node?_put_self htop, node?_put_self htop]
  · rw [node?_put_of_ne hqp, node?_put_of_ne hqp, h.nodes q hq]

theorem isDirectory {p : Place} (hp : p ∈ S) : d'.isDirectory p = d.isDirectory p := by
  rw [Disk.isDirectory, Disk.isDirectory, h.nodes p hp]

theorem database {p : Place} (hp : p ∈ S) : d'.database p = d.database p := by
  rw [Disk.database, Disk.database, h.nodes p hp]

end Alike

end Disk

variable {S : Set Place} {d d' : Disk}

/-! ## Handles -/

namespace Handle

/-- A handle of one of the places. -/
def IsAt (S : Set Place) (h : Handle) : Prop :=
  ∀ p, h.place? = some p → p ∈ S

variable (hd : d.Alike S d')

include hd

theorem openAt_agrees {p : Place} (hp : p ∈ S) {access : Access}
    (habove : access = .create → p.dropLast ∈ S) (path : String) :
    Agrees (Disk.Alike S) (openAt d p access path) (openAt d' p access path) := by
  unfold openAt
  rw [hd.refuses, hd.nodes p hp]
  split
  · exact .error _
  · cases d.node? p with
    | none =>
      by_cases hcreate : access = .create
      · simp only [hcreate, true_and, hd.isDirectory (habove hcreate)]
        split
        · exact .ok (hd.tried.put p _)
        · exact .error _
      · simp only [hcreate, false_and, if_false]
        exact .error _
    | some n =>
      cases n with
      | directory => exact .error _
      | database db => exact .ok hd.tried
      | foreign => exact .ok hd.tried

/-- **A path is opened alike**, where the way to it is barred on both disks or on none. -/
theorem ofText_agrees {path : String} {access : Access}
    (haddress : Address.ofText access path = .ok ⟨path, access, false⟩)
    (hkept : Address.isTransient ⟨path, access, false⟩ = false)
    (hbarred : isBarred d' (Path.start d.working path) (Path.names path) =
      isBarred d (Path.start d.working path) (Path.names path))
    (hp : Path.place d.working path ∈ S)
    (habove : access = .create → (Path.place d.working path).dropLast ∈ S) :
    Agrees (fun o o' => o'.1 = o.1 ∧ o.1.IsAt S ∧ o.2.Alike S o'.2) (ofText d access path)
      (ofText d' access path) := by
  rw [ofText_of_plain d haddress hkept, ofText_of_plain d' haddress hkept, hd.working, hbarred]
  split
  · exact .error _
  · refine (openAt_agrees hd hp habove path).map fun opened opened' hopened => ⟨rfl, ?_, hopened⟩
    intro p hplace
    exact Option.some.inj hplace ▸ hp

theorem database_eq {h : Handle} (hplace : h.IsAt S) : h.database d' = h.database d := by
  unfold database
  split
  · rfl
  · rename_i p hp
    exact hd.database (hplace p hp)

theorem write_agrees (h : Handle) (db : Database) :
    Agrees (Disk.Alike S) (h.write d db) (h.write d' db) := by
  unfold write
  rw [hd.refuses]
  split
  · exact .error _
  · split
    · exact .ok hd
    · split
      · exact .error _
      · split
        · exact .error _
        · exact .ok (hd.tried.put _ _)

theorem settle_agrees (h : Handle) : Agrees (Disk.Alike S) (h.settle d) (h.settle d') := by
  unfold settle
  rw [hd.refuses]
  split
  · exact .ok hd
  · split
    · exact .error _
    · exact .ok hd.tried

end Handle

/-! ## The store -/

namespace Store

/-- Two outcomes with one answer, and disks that agree. -/
def AgreesOn {α : Type} (S : Set Place) (o o' : Outcome α) : Prop :=
  o'.1 = o.1 ∧ o.2.Alike S o'.2

variable (hd : d.Alike S d') {h : Handle} (hplace : h.IsAt S)

include hd hplace

theorem ensureTable_agrees (t : Table) :
    Agrees (Disk.Alike S) (ensureTable d h t) (ensureTable d' h t) := by
  unfold ensureTable
  rw [Handle.database_eq hd hplace]
  cases h.database d with
  | error f => exact .error f
  | ok db =>
    simp only [bind, Except.bind]
    split
    · exact .ok hd
    · exact Handle.write_agrees hd h _

theorem insertInto_agrees (actions : Actions) (table : String)
    (rows : List (List (String × Cell))) :
    Agrees (Disk.Alike S) (insertInto d h actions table rows)
      (insertInto d' h actions table rows) := by
  unfold insertInto
  rw [Handle.database_eq hd hplace]
  cases during actions.inserting (h.database d) with
  | error f => exact .error f
  | ok db =>
    simp only [bind, Except.bind]
    cases during actions.inserting (insertRows db table rows) with
    | error f => exact .error f
    | ok x =>
      refine ((Handle.write_agrees hd h _).during actions.inserting).bind fun e e' he => ?_
      cases during actions.committing x.commit with
      | error f => exact .error f
      | ok t => exact (Handle.settle_agrees he h).during actions.committing

omit hd hplace in
/-- **Rows go in alike** where the database is opened alike. -/
theorem insertAt_agrees (hd : d.Alike S d') {path : String}
    (hopen : Agrees (fun o o' => o'.1 = o.1 ∧ o.1.IsAt S ∧ o.2.Alike S o'.2)
      (Handle.ofText d .create path) (Handle.ofText d' .create path))
    (t : Tenant) (actions : Actions) (table : String) (rows : List (List (String × Cell))) :
    AgreesOn S (insertAt d t path actions table rows) (insertAt d' t path actions table rows) := by
  unfold insertAt
  rcases hopen.split with ⟨f, hx, hy⟩ | ⟨⟨handle, e⟩, ⟨_, e'⟩, hx, hy, rfl, hplace, he⟩
  · rw [hx, hy]
    exact ⟨rfl, hd⟩
  · rw [hx, hy]
    dsimp only
    rcases (insertInto_agrees he hplace actions table rows).split with
      ⟨f, hx, hy⟩ | ⟨_, _, hx, hy, hafter⟩
    · rw [hx, hy]
      exact ⟨rfl, he⟩
    · rw [hx, hy]
      exact ⟨rfl, hafter⟩

end Store

end SalesLedger.Storage
