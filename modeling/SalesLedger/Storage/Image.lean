import SalesLedger.Json.Parser
import SalesLedger.Json.Printer
import SalesLedger.Storage.Disk

/-!
# Images of databases

How a database is kept in a file: as a JSON list of its tables, each with its layout and rows. A
double is kept as its bits, so that every double comes back as it was. A database without tables is
a file of no bytes.

Main statements: `cell?_ofCell`, a cell that is no double comes back from its image, and
`layout?_ofLayout`, so does every layout.
-/

namespace SalesLedger.Storage.Image

open Sql

/-! ## Writing -/

def ofBytes (bytes : List UInt8) : Json :=
  .array (bytes.map fun b => .integer b.toNat)

def ofCell : Cell → Json
  | .null => .null
  | .integer n => .integer n
  | .real x => .object [("bits", .integer x.toBits.toNat)]
  | .text s => .text s
  | .malformed bytes => .object [("text", ofBytes bytes)]
  | .blob bytes => ofBytes bytes

def affinityWord : Affinity → String
  | .blob => "blob"
  | .text => "text"
  | .numeric => "numeric"
  | .integer => "integer"
  | .real => "real"

/-- The word for what becomes of a row that breaks a rule. -/
def resolutionWord : Resolution → String
  | .abort => "abort"
  | .ignore => "ignore"
  | .replace => "replace"

def directionWord : SortOrder → String
  | .ascending => "ascending"
  | .descending => "descending"

/-- The word for what becomes of rows that refer to one that goes. -/
def removalWord : Removal → String
  | .nothing => "nothing"
  | .restrict => "restrict"
  | .clear => "clear"
  | .reset => "reset"
  | .cascade => "cascade"

/-- The image of a text that may be missing. -/
def ofText? : Option String → Json
  | none => .null
  | some s => .text s

/-- The image of a number. -/
def ofNat (n : Nat) : Json := .integer n

/-- The image of what becomes of a row, where that is said. -/
def ofResolution? (r : Option Resolution) : Json :=
  ofText? (r.map resolutionWord)

def ofColumn (c : Column) : Json :=
  .array [.text c.name, .text c.type, .text (affinityWord c.affinity), .text c.collation.name,
    ofNat c.width, ofText? c.fallback?, ofText? c.computed?, .bool c.isStored,
    ofResolution? c.required?]

/-- The image of the column that numbers the rows. -/
def ofNumbering? : Option Numbering → Json
  | none => .null
  | some n =>
    .array [ofNat n.place, .bool n.isCounter, .text (resolutionWord n.resolution),
      .text (directionWord n.direction)]

/-- The image of a column in a key. -/
def ofPart (p : KeyPart) : Json :=
  .array [ofNat p.place, .text p.collation.name, .text (directionWord p.direction)]

def ofKey (k : Key) : Json :=
  .array [.array (k.parts.map ofPart), .bool k.isPrimary, ofResolution? k.resolution?]

/-- The image of a condition. -/
def ofCheck (c : Check) : Json :=
  .array [.text c.name, .text c.condition]

def ofReference (r : Reference) : Json :=
  .array [.array (r.places.map ofNat), .text r.table, .array (r.targets.map .text),
    .text (removalWord r.onRemoval), .bool r.isDeferred]

def ofLayout (l : Layout) : Json :=
  .array [.array (l.columns.map ofColumn), ofNumbering? l.numbering?, .array (l.keys.map ofKey),
    .array (l.checks.map ofCheck), .array (l.references.map ofReference), .bool l.isStrict,
    .bool l.isKeyed]

def ofRow (r : Row) : Json :=
  .array [.integer r.number, .array (r.cells.map ofCell)]

def ofTable (t : Table) : Json :=
  .array [.text t.name, ofLayout t.toLayout, .array (t.rows.map ofRow), .integer t.counted]

/-- The text of a database's file. -/
def text (db : Database) : String :=
  if db.isEmpty then "" else (Json.array (db.map ofTable)).compact ++ "\n"

/-! ## Reading -/

/-- The items of a list of images. -/
def items? {α : Type} (read : Json → Option α) : Json → Option (List α)
  | .array items => items.mapM read
  | _ => none

def byte? : Json → Option UInt8
  | .integer n => if 0 ≤ n ∧ n < 256 then some (UInt8.ofNat n.toNat) else none
  | _ => none

def cell? : Json → Option Cell
  | .null => some .null
  | .integer n => some (.integer n)
  | .object [("bits", .integer n)] => some (.real (Float.ofBits (UInt64.ofNat n.toNat)))
  | .object [("text", bytes)] => (items? byte? bytes).map .malformed
  | .text s => some (.text s)
  | .array items => (items.mapM byte?).map .blob
  | _ => none

/-- The affinity that a word means. -/
def affinity? (word : String) : Option Affinity :=
  [Affinity.blob, .text, .numeric, .integer, .real].find? fun a => affinityWord a == word

/-- What a word says that becomes of a row that breaks a rule. -/
def resolution? (word : String) : Option Resolution :=
  [Resolution.abort, .ignore, .replace].find? fun r => resolutionWord r == word

/-- The direction that a word means. -/
def direction? (word : String) : Option SortOrder :=
  [SortOrder.ascending, .descending].find? fun o => directionWord o == word

/-- What a word says that becomes of rows that refer to one that goes. -/
def removal? (word : String) : Option Removal :=
  [Removal.nothing, .restrict, .clear, .reset, .cascade].find? fun r => removalWord r == word

def text? : Json → Option String
  | .text s => some s
  | _ => none

/-- The text, or the missing text, of an image. -/
def maybeText? : Json → Option (Option String)
  | .null => some none
  | .text s => some (some s)
  | _ => none

/-- The number of an image. -/
def nat? : Json → Option Nat
  | .integer n => some n.toNat
  | _ => none

/-- What an image says that becomes of a row, if it says so. -/
def maybeResolution? : Json → Option (Option Resolution)
  | .null => some none
  | .text s => (resolution? s).map some
  | _ => none

def column? : Json → Option Column
  | .array [.text name, .text type, .text affinity, .text collation, width, fallback, computed,
      .bool isStored, required] => do
    some
      { name
        type
        affinity := ← affinity? affinity
        collation := ← Collation.ofName? collation
        width := ← nat? width
        fallback? := ← maybeText? fallback
        computed? := ← maybeText? computed
        isStored
        required? := ← maybeResolution? required }
  | _ => none

/-- The column that numbers the rows, if an image has one. -/
def numbering? : Json → Option (Option Numbering)
  | .null => some none
  | .array [place, .bool isCounter, .text resolution, .text direction] => do
    some (some ⟨← nat? place, isCounter, ← resolution? resolution, ← direction? direction⟩)
  | _ => none

/-- The column in a key of an image. -/
def part? : Json → Option KeyPart
  | .array [place, .text collation, .text direction] => do
    some ⟨← nat? place, ← Collation.ofName? collation, ← direction? direction⟩
  | _ => none

def key? : Json → Option Key
  | .array [parts, .bool isPrimary, resolution] => do
    some ⟨← items? part? parts, isPrimary, ← maybeResolution? resolution⟩
  | _ => none

/-- The condition of an image. -/
def check? : Json → Option Check
  | .array [.text name, .text condition] => some ⟨name, condition⟩
  | _ => none

def reference? : Json → Option Reference
  | .array [places, .text table, targets, .text removal, .bool isDeferred] => do
    some ⟨← items? nat? places, table, ← items? text? targets, ← removal? removal, isDeferred⟩
  | _ => none

def layout? : Json → Option Layout
  | .array [columns, numbering, keys, checks, references, .bool isStrict, .bool isKeyed] => do
    some
      { columns := ← items? column? columns
        numbering? := ← numbering? numbering
        keys := ← items? key? keys
        checks := ← items? check? checks
        references := ← items? reference? references
        isStrict
        isKeyed }
  | _ => none

def row? : Json → Option Row
  | .array [.integer number, cells] => (items? cell? cells).map fun cells => ⟨number, cells⟩
  | _ => none

def table? : Json → Option Table
  | .array [.text name, layout, rows, .integer counted] => do
    let layout ← layout? layout
    some { layout with name, rows := ← items? row? rows, counted }
  | _ => none

/-- The database in a file's text, if the file is one. -/
def database? (s : String) : Option Database :=
  if s.isEmpty then some []
  else
    match Json.parse s with
    | .ok v => items? table? v
    | .error _ => none

/-- What stands at a place whose file has these bytes. -/
def node (bytes : ByteArray) : Node :=
  match (String.fromUTF8? bytes).bind database? with
  | some db => .database db
  | none => .foreign

/-! ## Laws -/

theorem byte?_ofNat (b : UInt8) : byte? (.integer b.toNat) = some b := by
  have hb := b.toNat_lt
  rw [byte?, if_pos (by omega)]
  simp

theorem items?_map {α : Type} {write : α → Json} {read : Json → Option α} {xs : List α}
    (h : ∀ x ∈ xs, read (write x) = some x) : items? read (.array (xs.map write)) = some xs := by
  rw [items?]
  induction xs with
  | nil => rfl
  | cons x xs ih => simp [h x (by simp), ih fun y hy => h y (by simp [hy])]

theorem items?_ofBytes (bytes : List UInt8) : items? byte? (ofBytes bytes) = some bytes :=
  items?_map fun b _ => byte?_ofNat b

theorem cell?_ofCell {c : Cell} (h : ∀ x, c ≠ .real x) : cell? (ofCell c) = some c := by
  cases c with
  | null => rfl
  | integer n => rfl
  | real x => exact absurd rfl (h x)
  | text s => rfl
  | malformed bytes => exact congrArg (Option.map Cell.malformed) (items?_ofBytes bytes)
  | blob bytes => exact congrArg (Option.map Cell.blob) (items?_ofBytes bytes)

theorem affinity?_word (a : Affinity) : affinity? (affinityWord a) = some a := by
  cases a <;> rfl

theorem resolution?_word (r : Resolution) : resolution? (resolutionWord r) = some r := by
  cases r <;> rfl

theorem direction?_word (o : SortOrder) : direction? (directionWord o) = some o := by
  cases o <;> rfl

theorem removal?_word (r : Removal) : removal? (removalWord r) = some r := by
  cases r <;> rfl

theorem maybeText?_ofText? (s : Option String) : maybeText? (ofText? s) = some s := by
  cases s <;> rfl

theorem nat?_ofNat (n : Nat) : nat? (ofNat n) = some n := rfl

theorem maybeResolution?_of (r : Option Resolution) :
    maybeResolution? (ofResolution? r) = some r := by
  cases r with
  | none => rfl
  | some r => exact congrArg (Option.map some) (resolution?_word r)

theorem column?_ofColumn (c : Column) : column? (ofColumn c) = some c := by
  simp only [ofColumn, column?, affinity?_word, Collation.ofName?_name, nat?_ofNat,
    maybeText?_ofText?, maybeResolution?_of, bind, Option.bind]

theorem numbering?_of (n : Option Numbering) : numbering? (ofNumbering? n) = some n := by
  cases n with
  | none => rfl
  | some n =>
    simp only [ofNumbering?, numbering?, nat?_ofNat, resolution?_word, direction?_word, bind,
      Option.bind]

theorem part?_ofPart (p : KeyPart) : part? (ofPart p) = some p := by
  simp only [ofPart, part?, nat?_ofNat, Collation.ofName?_name, direction?_word, bind,
    Option.bind]

theorem key?_ofKey (k : Key) : key? (ofKey k) = some k := by
  simp only [ofKey, key?, items?_map fun p _ => part?_ofPart p, maybeResolution?_of, bind,
    Option.bind]

theorem reference?_ofReference (r : Reference) : reference? (ofReference r) = some r := by
  have htargets : items? text? (.array (r.targets.map .text)) = some r.targets :=
    items?_map fun _ _ => rfl
  simp only [ofReference, reference?, items?_map fun n _ => nat?_ofNat n, htargets,
    removal?_word, bind, Option.bind]

theorem layout?_ofLayout (l : Layout) : layout? (ofLayout l) = some l := by
  have hchecks : items? check? (.array (l.checks.map ofCheck)) = some l.checks :=
    items?_map fun _ _ => rfl
  simp only [ofLayout, layout?, items?_map fun c _ => column?_ofColumn c, numbering?_of,
    items?_map fun k _ => key?_ofKey k, hchecks,
    items?_map fun r _ => reference?_ofReference r, bind, Option.bind]

end SalesLedger.Storage.Image
