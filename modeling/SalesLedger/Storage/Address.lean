import SalesLedger.Sql.Fault
import SalesLedger.Storage.Path
import SalesLedger.Text.Case
import SalesLedger.Text.Utf8

/-!
# Addresses of databases

A database is opened by a path, or by an address that begins with `file:`. An address may name the
local host, writes bytes as two hexadecimal digits behind a percent sign, and says after a
question mark how the database is opened; what follows a hash sign does not count.

Main statement: `ofText_path`, a text that is no address is a path, opened as it was asked for.
-/

namespace SalesLedger.Storage

/-- How a database is opened. -/
inductive Access where
  | readOnly
  | readWrite
  /-- A file that is missing is made. -/
  | create
  /-- Nothing is kept. -/
  | memory
  deriving Repr, DecidableEq

namespace Access

/-- The word for a way to open a database. -/
def word : Access → String
  | readOnly => "ro"
  | readWrite => "rw"
  | create => "rwc"
  | memory => "memory"

/-- How much may be asked for where a database is opened this way. -/
def grant : Access → Nat
  | readOnly => 1
  | readWrite => 2
  | create => 6
  | memory => 128

/-- How much a way to open a database asks for. -/
def demand : Access → Nat
  | memory => 0
  | a => a.grant

/-- The way to open a database that a word means. -/
def ofWord? (s : String) : Option Access :=
  [readOnly, readWrite, create, memory].find? fun a => a.word == s

end Access

/-- Where a database is and how it is opened. -/
structure Address where
  path : String
  access : Access
  /-- The file is taken to change no more. -/
  immutable : Bool
  deriving Repr, DecidableEq

namespace Address

/-! ## Parts -/

/-- Whether a byte spells a character. -/
def spells (c : Char) (b : UInt8) : Bool :=
  b.toNat == c.toNat

/-- The value of a hexadecimal digit. -/
def hexDigit? (b : UInt8) : Option UInt8 :=
  if 0x30 ≤ b ∧ b ≤ 0x39 then some (b - 0x30)
  else if 0x41 ≤ b ∧ b ≤ 0x46 then some (b - 0x37)
  else if 0x61 ≤ b ∧ b ≤ 0x66 then some (b - 0x57)
  else none

/-- The byte that two hexadecimal digits spell. -/
def hexByte? (high low : UInt8) : Option UInt8 :=
  match hexDigit? high, hexDigit? low with
  | some h, some l => some (h * 16 + l)
  | _, _ => none

/-- The bytes that a piece of an address means. A zero byte ends it. -/
def decode : List UInt8 → List UInt8
  | b :: high :: low :: rest =>
    match if spells '%' b then hexByte? high low else none with
    | some byte => if byte = 0 then [] else byte :: decode rest
    | none => b :: decode (high :: low :: rest)
  | bytes => bytes

/-- A piece of an address as text. -/
def textOf (bytes : List UInt8) : String :=
  Text.Utf8.ofBytes (decode bytes)

/-- The bytes before the first that spells a character, and those after it. -/
def cut (c : Char) (bytes : List UInt8) : List UInt8 × List UInt8 :=
  (bytes.takeWhile fun b => !spells c b, (bytes.dropWhile fun b => !spells c b).drop 1)

/-- The options behind the question mark. One without a name does not count. -/
def options (query : List UInt8) : List (String × String) :=
  ((Path.pieces (spells '&') query).map fun piece =>
    let (name, value) := cut '=' piece
    (textOf name, textOf value)).filter fun o => o.1 ≠ ""

/-! ## Options -/

/-- The names of the ways to reach files, and the one that keeps nothing. -/
def fileSystems : List String := ["unix", "unix-none", "unix-dotfile", "unix-excl"]
def nothingKept : String := "memdb"

/-- Whether the value of an option is a yes. -/
def isYes (value : String) : Bool :=
  match value.toList.takeWhile Text.isDigit with
  | [] => ["on", "yes", "true"].any (Text.equalAscii value)
  | digits => digits.any (· ≠ '0')

/-- The address with one option carried out. -/
def apply (a : Address) (option : String × String) : Except Sql.Fault Address :=
  let (name, value) := option
  if name = "mode" then
    match Access.ofWord? value with
    | none => .error (.noSuchMode "access" value)
    | some wanted =>
      if a.access.grant < wanted.demand then .error (.modeNotAllowed value)
      else .ok { a with access := wanted }
  else if name = "cache" then
    if value = "shared" ∨ value = "private" then .ok a else .error (.noSuchMode "cache" value)
  else .ok a

/-- The address with its way to reach files, the last that is named. -/
def reached (a : Address) (options : List (String × String)) : Except Sql.Fault Address :=
  match options.reverse.lookup "vfs" with
  | none => .ok a
  | some name =>
    if fileSystems.contains name then .ok a
    else if name = nothingKept then .ok { a with access := .memory }
    else .error (.noSuchFileSystem name)

/-! ## Reading -/

/-- What an address says behind its scheme, with the local host left out. -/
def afterHost (bytes : List UInt8) : Except Sql.Fault (List UInt8) :=
  match bytes with
  | a :: b :: rest =>
    if spells '/' a && spells '/' b then
      let host := rest.takeWhile fun b => !spells '/' b
      let name := Text.Utf8.ofBytes host
      if name = "" ∨ name = "localhost" then .ok (rest.drop host.length)
      else .error (.invalidAuthority name)
    else .ok bytes
  | _ => .ok bytes

/-- The scheme that addresses begin with. -/
def scheme : List UInt8 :=
  Text.Utf8.toBytes "file:"

/-- The address that a text means, where a database is to be opened in some way. -/
def ofText (access : Access) (s : String) : Except Sql.Fault Address :=
  let bytes := Text.Utf8.toBytes s
  if scheme.isPrefixOf bytes then do
    let (path, query) := cut '?' (cut '#' (← afterHost (bytes.drop scheme.length))).1
    let options := options query
    let immutable := ((options.lookup "immutable").map isYes).getD false
    let a ← options.foldlM apply ⟨textOf path, access, immutable⟩
    a.reached options
  else .ok ⟨s, access, false⟩

/-- Whether a database is kept nowhere: it is new whenever it is opened. -/
def isTransient (a : Address) : Bool :=
  a.access = .memory || a.path = "" || a.path = ":memory:"

/-- Whether a database may be written to. -/
def isWritable (a : Address) : Bool :=
  a.access ≠ .readOnly && !a.immutable

/-! ## Laws -/

theorem ofText_path {s : String} (h : scheme.isPrefixOf (Text.Utf8.toBytes s) = false)
    (access : Access) : ofText access s = .ok ⟨s, access, false⟩ := by
  simp [ofText, h]

theorem ofWord?_word (a : Access) : Access.ofWord? a.word = some a := by
  cases a <;> rfl

end Address

end SalesLedger.Storage
