import SalesLedger.Storage.Address
import SalesLedger.Storage.Directory

/-!
# Opened databases

A database is opened at an address and then read and written through a handle. Its path is
resolved name by name, and two dots take back the name before them, whether anything has that name
or not. What is no database is noticed only when it is used.

Main statements: `node?_of_write`, writing through a handle leaves all other places as they were,
and `write_transient`, what is kept nowhere changes no disk.
-/

namespace SalesLedger.Storage

open Sql

/-- An opened database: its place, unless it is kept nowhere, and whether it may be written to. -/
structure Handle where
  place? : Option Place
  isWritable : Bool
  deriving Repr, DecidableEq

/-- The bytes of the path of a place from the top. -/
def Place.size (p : Place) : Nat :=
  p.foldl (fun n name => n + 1 + name.utf8ByteSize) 0

namespace Handle

/-- What the name of a journal has more than that of its database. -/
def journalEnding : String := "-journal"

/-- The greatest number of bytes in the path of a journal. On the way to a database no path is as
long as that. -/
def longestPath : Nat := 512

/-- Whether a database cannot stand at a place, for the length of its path. -/
def isOutOfReach (p : Place) : Bool :=
  longestPath < p.size + journalEnding.utf8ByteSize

/-- Whether a name stands in the way to a place: one that is too long, one that makes the path too
long, or one behind a file. -/
def isBarred (d : Disk) (here : Place) : List String → Bool
  | [] => false
  | name :: rest =>
    name ≠ ".." && (Path.isTooLong name || longestPath ≤ (here ++ [name]).size ||
      (d.node? here).any (· ≠ .directory)) || isBarred d (Path.step here name) rest

/-- Whether the place of a database leaves no room for its journal beside it. -/
def lacksJournal (p : Place) : Bool :=
  p.getLast?.any fun name => Path.isTooLong (name ++ journalEnding)

/-- Opens the database at a place, making one without tables where none is and one may be made.
A path for messages comes with the place. -/
def openAt (d : Disk) (p : Place) (access : Access) (path : String) : Except Fault Disk :=
  if isOutOfReach p ∨ d.refuses then .error (.cannotOpen path)
  else
    match d.node? p with
    | some .directory =>
      .error (if access = .readOnly then .diskError else .cannotOpen path)
    | some _ => .ok d.tried
    | none =>
      if access = .create ∧ d.isDirectory p.dropLast then .ok (d.tried.put p (.database []))
      else .error (.cannotOpen path)

/-- Opens the database that a text says. -/
def ofText (d : Disk) (access : Access) (text : String) : Except Fault (Handle × Disk) := do
  let a ← Address.ofText access text
  if a.isTransient then pure (⟨none, a.access ≠ .readOnly⟩, d)
  else
    let p := d.place a.path
    if isBarred d (Path.start d.working a.path) (Path.names a.path) then throw (.cannotOpen text)
    else pure (⟨some p, a.isWritable⟩, ← openAt d p a.access text)

/-- The tables of an opened database. -/
def database (h : Handle) (d : Disk) : Except Fault Database :=
  match h.place? with
  | none => .ok []
  | some p => d.database p

/-- Writes the tables of an opened database. -/
def write (h : Handle) (d : Disk) (db : Database) : Except Fault Disk :=
  if !h.isWritable then .error .readOnly
  else
    match h.place? with
    | none => .ok d
    | some p =>
      if lacksJournal p then .error .cannotOpenJournal
      else if d.refuses then .error .locked
      else .ok (d.tried.put p (.database db))

/-- Makes lasting what was written, where it is kept. -/
def settle (h : Handle) (d : Disk) : Except Fault Disk :=
  if h.place?.isNone then .ok d else if d.refuses then .error .locked else .ok d.tried

/-! ## Laws -/

theorem eq_of_settle {h : Handle} {d after : Disk} (hs : h.settle d = .ok after) :
    after = d ∨ after = d.tried := by
  unfold settle at hs
  split at hs
  · exact .inl (Except.ok.inj hs).symm
  · split at hs
    · cases hs
    · exact .inr (Except.ok.inj hs).symm

theorem node?_of_write {h : Handle} {d after : Disk} {db : Database} {q : Place}
    (hq : h.place? ≠ some q) (hw : h.write d db = .ok after) : after.node? q = d.node? q := by
  unfold write at hw
  split at hw
  · cases hw
  · split at hw
    · cases hw
      rfl
    · rename_i p hp
      split at hw
      · cases hw
      · split at hw
        · cases hw
        · cases hw
          exact Disk.node?_put_of_ne (fun heq => hq (by rw [hp, heq])) d.tried _

theorem write_transient (d : Disk) (db : Database) : write ⟨none, true⟩ d db = .ok d := rfl

end Handle

end SalesLedger.Storage
