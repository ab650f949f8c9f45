import SalesLedger.Storage.Disk

/-!
# Directories

Going along paths and making directories. Names are followed one after the other, so every name
but the last has to be that of a directory, also where two dots lead away from it again. A
directory is made together with those above it that are missing; those that could be made stay
when one could not.

Main statements: `walk_append`, a way can be gone in two parts, and `node?_of_makeOne`, making one
directory leaves all other places as they were.
-/

namespace SalesLedger.Storage

/-- Why a path leads nowhere, or a directory cannot be made. -/
inductive PathFault where
  | exists
  | notDirectory
  | notFound
  | nameTooLong
  deriving Repr, DecidableEq

/-- What the system says about it. -/
def PathFault.message : PathFault → String
  | .exists => "File exists (os error 17)"
  | .notDirectory => "Not a directory (os error 20)"
  | .notFound => "No such file or directory (os error 2)"
  | .nameTooLong => "File name too long (os error 36)"

namespace Path

/-- The greatest number of bytes in a name, and in a path. -/
def longestName : Nat := 255
def longestPath : Nat := 4095

/-- Whether a name has more bytes than the system allows. -/
def isTooLong (name : String) : Bool :=
  longestName < name.utf8ByteSize

end Path

namespace Disk

def isDirectory (d : Disk) (p : Place) : Bool :=
  d.node? p = some .directory

/-- The place that names lead to from a place. -/
def walk (d : Disk) (here : Place) : List String → Except PathFault Place
  | [] => .ok here
  | name :: rest =>
    if !d.isDirectory here then .error .notDirectory
    else if name = ".." then walk d here.dropLast rest
    else if Path.isTooLong name then .error .nameTooLong
    else if (d.node? (here ++ [name])).isNone then .error .notFound
    else walk d (here ++ [name]) rest

/-- The place that a path leads to. -/
def find (d : Disk) (path : String) : Except PathFault Place :=
  if path = "" then .error .notFound
  else if Path.longestPath < path.utf8ByteSize then .error .nameTooLong
  else d.walk (Path.start d.working path) (Path.names path)

/-- Whether a path leads to anything. -/
def exists? (d : Disk) (path : String) : Bool :=
  match d.find path with
  | .ok _ => true
  | .error _ => false

/-- Makes the directory that names lead to from a place; the way to the last name is there. -/
def makeOne (d : Disk) (here : Place) : List String → Except PathFault Disk
  | [] => .error .exists
  | [name] =>
    if !d.isDirectory here then .error .notDirectory
    else if name = ".." then .error .exists
    else if Path.isTooLong name then .error .nameTooLong
    else if (d.node? (here ++ [name])).isSome then .error .exists
    else .ok (d.put (here ++ [name]) .directory)
  | name :: next :: rest =>
    match d.walk here [name] with
    | .error f => .error f
    | .ok there => makeOne d there (next :: rest)

/-- Makes the directory that names lead to from a place, unless it is there. -/
def ensureOne (d : Disk) (here : Place) (names : List String) : Except PathFault Disk :=
  match d.makeOne here names with
  | .ok d => .ok d
  | .error .exists =>
    match d.walk here names with
    | .ok p => if d.isDirectory p then .ok d else .error .exists
    | .error _ => .error .exists
  | .error f => .error f

/-- Makes a directory with those above it, its names given from the last to the first. Only when
the way to it is missing are those above it looked at. -/
def ensureAll (d : Disk) (here : Place) : List String → Except PathFault Unit × Disk
  | [] => (.ok (), d)
  | name :: above =>
    match d.ensureOne here (name :: above).reverse with
    | .ok d => (.ok (), d)
    | .error .notFound =>
      match ensureAll d here above with
      | (.error f, d) => (.error f, d)
      | (.ok (), d) =>
        match d.ensureOne here (name :: above).reverse with
        | .ok d => (.ok (), d)
        | .error f => (.error f, d)
    | .error f => (.error f, d)

/-- Goes to the directory that names lead to. -/
def enter (d : Disk) (here : Place) (names : List String) : Except PathFault Unit :=
  match d.walk here names with
  | .ok p => if d.isDirectory p then .ok () else .error .notDirectory
  | .error f => .error f

/-- Makes the directory that a path leads to, with those above it. A dot at the end stands for a
directory that has to be there: only those above it are made. -/
def makeDirectories (d : Disk) (path : String) : Except PathFault Unit × Disk :=
  let here := Path.start d.working path
  let names := Path.names path
  if Path.longestPath < path.utf8ByteSize then (.error .nameTooLong, d)
  else if Path.endsInDot path then
    match d.enter here names with
    | .error .notFound =>
      match d.ensureAll here (names.reverse.drop 1) with
      | (.error f, d) => (.error f, d)
      | (.ok (), d) => (d.enter here names, d)
    | r => (r, d)
  else d.ensureAll here names.reverse

/-! ## Laws -/

theorem walk_append (d : Disk) (here : Place) (names more : List String) :
    d.walk here (names ++ more) = (d.walk here names).bind fun p => d.walk p more := by
  induction names generalizing here with
  | nil => rfl
  | cons name rest ih =>
    simp only [List.cons_append, walk]
    split
    · rfl
    · split
      · exact ih _
      · split
        · rfl
        · split
          · rfl
          · exact ih _

/-- What making a directory found where the way to it ends, and what it put there. -/
theorem makeOne_last_ok {d after : Disk} {here : Place} {name : String}
    (h : d.makeOne here [name] = .ok after) :
    d.isDirectory here = true ∧ name ≠ ".." ∧ Path.isTooLong name = false ∧
      d.node? (here ++ [name]) = none ∧ after = d.put (here ++ [name]) .directory := by
  rw [makeOne] at h
  split at h
  · cases h
  · rename_i hdirectory
    split at h
    · cases h
    · rename_i hup
      split at h
      · cases h
      · rename_i hlong
        split at h
        · cases h
        · rename_i hnone
          exact ⟨by simpa using hdirectory, hup, by simpa using hlong, by simpa using hnone,
            (Except.ok.inj h).symm⟩

theorem makeOne_further_ok {d after : Disk} {here : Place} {name next : String}
    {rest : List String} (h : d.makeOne here (name :: next :: rest) = .ok after) :
    ∃ there, d.walk here [name] = .ok there ∧ d.makeOne there (next :: rest) = .ok after := by
  rw [makeOne] at h
  split at h
  · cases h
  · rename_i there hthere
    exact ⟨there, hthere, h⟩

theorem node?_of_makeOne {d after : Disk} {here q : Place} {names : List String}
    (h : d.makeOne here names = .ok after) (hq : (d.node? q).isSome = true) :
    after.node? q = d.node? q := by
  induction names generalizing here with
  | nil => cases h
  | cons name rest ih =>
    cases rest with
    | nil =>
      obtain ⟨-, -, -, hnone, rfl⟩ := makeOne_last_ok h
      refine node?_put_of_ne ?_ d _
      rintro rfl
      rw [hnone] at hq
      cases hq
    | cons next rest =>
      obtain ⟨there, -, hrest⟩ := makeOne_further_ok h
      exact ih hrest

end Disk

end SalesLedger.Storage
