import SalesLedger.Sql.Document.Basic

/-!
# Paths into documents

A path goes into a document step by step: a point and a label lead to a member, a number in brackets
to an item, counted from the end behind a cross. A path is read only as far as it leads somewhere,
so a broken one is noticed where it is reached.

A document is edited at the end of a path: what stands there is removed or replaced, or something
is inserted where nothing stands. What a path lacks on its way is made then, but no item that others
would have to come before.

Main statements: `find_nil` and `edit_nil`, an empty path leads to the document itself, and
`find_label`, a label leads to the first member that has it.
-/

namespace SalesLedger.Sql.Document

/-- Where a path leads. -/
inductive Found (α : Type) where
  | here (a : α)
  | nowhere
  /-- The path is no path. -/
  | broken

/-- The label behind a point, and the path behind it. -/
def step? (cs : List Char) : Option (Spelling × List Char) :=
  match cs with
  | '"' :: cs =>
    let label := cs.takeWhile (· != '"')
    match cs.drop label.length with
    | [] => none
    | _ :: rest => some (⟨if label.contains '\\' then .loose else .raw, label⟩, rest)
  | _ =>
    let label := cs.takeWhile fun c => c != '.' && c != '['
    if label.isEmpty then none else some (⟨.raw, label⟩, cs.drop label.length)

/-- The number of digits, in 32 bits. -/
def index (ds : List Char) : Nat :=
  ds.foldl (fun n c => (n * 10 + (Text.digit? c).getD 0) % 0x100000000) 0

/-- The place of an item behind an opening bracket, and the path behind the closing one. -/
def place (count : Nat) (cs : List Char) : Found (Nat × List Char) :=
  let closed (n : Nat) (rest : List Char) : Found (Nat × List Char) :=
    match rest with
    | ']' :: rest => .here (n, rest)
    | _ => .broken
  match cs with
  | '#' :: '-' :: rest =>
    let ds := rest.takeWhile Text.isDigit
    if ds.isEmpty then .broken
    else if count < index ds then .nowhere
    else closed (count - index ds) (rest.drop ds.length)
  | '#' :: rest => closed count rest
  | _ =>
    let ds := cs.takeWhile Text.isDigit
    if ds.isEmpty then .broken else closed (index ds) (cs.drop ds.length)

/-- The place of the first member with a label. -/
def memberIndex? (label : Spelling) (members : List (Spelling × Document)) : Option Nat :=
  members.findIdx? fun m => label.same m.1

/-! ## Looking up -/

/-- What a path leads to, within so many steps. -/
def findWithin : Nat → List Char → Document → Found Document
  | _, [], d => .here d
  | 0, _, _ => .broken
  | fuel + 1, c :: cs, d =>
    if c = '.' then
      match step? cs, d with
      | none, _ => .broken
      | some (label, rest), .object members =>
        match members.find? fun m => label.same m.1 with
        | some m => findWithin fuel rest m.2
        | none => .nowhere
      | some _, _ => .nowhere
    else if c = '[' then
      match d with
      | .array items =>
        match place items.length cs with
        | .here (i, rest) =>
          match items[i]? with
          | some item => findWithin fuel rest item
          | none => .nowhere
        | .nowhere => .nowhere
        | .broken => .broken
      | _ => .nowhere
    else .broken

def find (path : List Char) (d : Document) : Found Document :=
  findWithin path.length path d

/-! ## Editing -/

/-- What happens to the end of a path. -/
inductive Edit where
  | remove
  /-- Something is put where something stands. -/
  | replace (d : Document)
  /-- Something is put where nothing stands. -/
  | insert (d : Document)
  /-- Something is put there in any case. -/
  | set (d : Document)

/-- What is put where nothing stands. -/
def Edit.inserted? : Edit → Option Document
  | .insert d | .set d => some d
  | _ => none

/-- What becomes of a document that a path ends at; nothing, where it is removed. -/
def Edit.apply (e : Edit) (d : Document) : Option Document :=
  match e with
  | .remove => none
  | .replace new | .set new => some new
  | .insert _ => some d

/-- A list in which an item is replaced by another, or by none. -/
def put {α : Type} (i : Nat) (item : Option α) (items : List α) : List α :=
  match item with
  | some a => items.set i a
  | none => items.eraseIdx i

/-- What a document becomes when the end of a path is edited; nothing, where it is removed itself.
There are no more steps than so many. -/
def editWithin (e : Edit) : Nat → List Char → Document → Found (Option Document)
  | _, [], d => .here (e.apply d)
  | 0, _, _ => .broken
  | fuel + 1, c :: cs, d =>
    /- What is inserted where the rest of a path leads nowhere: what the rest makes of nothing. -/
    let made (rest : List Char) : Found Document :=
      match e.inserted?, rest with
      | none, _ => .nowhere
      | some new, [] => .here new
      | some _, r :: _ =>
        match editWithin e fuel rest (if r = '.' then .object [] else .array []) with
        | .here (some d) => .here d
        | .here none => .nowhere
        | .nowhere => .nowhere
        | .broken => .broken
    let edited (rest : List Char) (old : Document) (make : Option Document → Document) :
        Found (Option Document) :=
      match editWithin e fuel rest old with
      | .here new => .here (some (make new))
      | .nowhere => .nowhere
      | .broken => .broken
    let appended (rest : List Char) (make : Document → Document) : Found (Option Document) :=
      match made rest with
      | .here new => .here (some (make new))
      | .nowhere => .nowhere
      | .broken => .broken
    if c = '.' then
      match step? cs, d with
      | none, _ => .broken
      | some (label, rest), .object members =>
        match memberIndex? label members with
        | some i =>
          match members[i]? with
          | some m => edited rest m.2 fun new => .object (put i (new.map fun n => (m.1, n)) members)
          | none => .nowhere
        | none => appended rest fun new => .object (members ++ [(label, new)])
      | some _, _ => .nowhere
    else if c = '[' then
      match d with
      | .array items =>
        match place items.length cs with
        | .here (i, rest) =>
          match items[i]? with
          | some item => edited rest item fun new => .array (put i new items)
          | none =>
            if i = items.length then appended rest fun new => .array (items ++ [new]) else .nowhere
        | .nowhere => .nowhere
        | .broken => .broken
      | _ => .nowhere
    else .broken

/-- What a document becomes when the end of a path is edited. -/
def edit (e : Edit) (path : List Char) (d : Document) : Found (Option Document) :=
  editWithin e path.length path d

/-! ## Merging -/

/-- A document that a patch is merged into, within so many levels: members that the patch has as
nothing are removed, others are merged or added, and what is no object takes the place of all. -/
def mergedWithin : Nat → Document → Document → Document
  | 0, d, _ => d
  | fuel + 1, d, .object patch =>
    let members :=
      match d with
      | .object members => members
      | _ => []
    .object (patch.foldl
      (fun members (label, new) =>
        match memberIndex? label members, new with
        | some i, .null => members.eraseIdx i
        | some i, _ =>
          match members[i]? with
          | some m => members.set i (m.1, mergedWithin fuel m.2 new)
          | none => members
        | none, .null => members
        | none, _ => members ++ [(label, mergedWithin fuel .null new)])
      members)
  | _, _, patch => patch

def merged (d patch : Document) : Document :=
  mergedWithin 2000 d patch

/-! ## Laws -/

theorem find_nil (d : Document) : find [] d = .here d := rfl

theorem edit_nil (e : Edit) (d : Document) : edit e [] d = .here (e.apply d) := rfl

theorem find_label {fuel : Nat} {cs rest : List Char} {label : Spelling}
    (members : List (Spelling × Document)) (h : step? cs = some (label, rest)) :
    findWithin (fuel + 1) ('.' :: cs) (.object members) =
      match members.find? fun m => label.same m.1 with
      | some m => findWithin fuel rest m.2
      | none => .nowhere := by
  simp only [findWithin, h, if_true]

theorem merged_of_leaf (d patch : Document) (h : ∀ members, patch ≠ .object members) :
    merged d patch = patch := by
  unfold merged
  cases patch with
  | object members => exact absurd rfl (h members)
  | null => rfl
  | truth b => rfl
  | number form cs => rfl
  | text s => rfl
  | array items => rfl

end SalesLedger.Sql.Document
