import SalesLedger.Sql.Document.Reader

/-!
# Documents as bytes

The binary form of documents. Each begins with a byte whose lower half is its kind and whose upper
half is the size of what follows, or says how many bytes the size takes. Numbers and texts follow as
they are spelled, and what a document holds in its binary form.

Main statement: `cut?_node`, a short node is read as it was written.
-/

namespace SalesLedger.Sql.Document

/-! ## Writing -/

/-- A number as so many bytes, the greatest first. -/
def bigEndian : Nat → Nat → List UInt8
  | 0, _ => []
  | count + 1, n => bigEndian count (n / 256) ++ [UInt8.ofNat (n % 256)]

/-- What stands before so many bytes of a kind. -/
def header (kind size : Nat) : List UInt8 :=
  if size ≤ 11 then [UInt8.ofNat (size * 16 + kind)]
  else if size ≤ 0xff then UInt8.ofNat (0xc0 + kind) :: bigEndian 1 size
  else if size ≤ 0xffff then UInt8.ofNat (0xd0 + kind) :: bigEndian 2 size
  else UInt8.ofNat (0xe0 + kind) :: bigEndian 4 size

/-- Bytes of a kind with their header. -/
def node (kind : Nat) (bytes : List UInt8) : List UInt8 :=
  header kind bytes.length ++ bytes

/-- The kind of a number. -/
def Numeral.code : Numeral → Nat
  | .whole => 3
  | .hexadecimal => 4
  | .decimal => 5
  | .bare => 6

/-- The kind of a text. -/
def Script.code : Script → Nat
  | .plain => 7
  | .escaped => 8
  | .loose => 9
  | .raw => 10

/-- The binary form of a text. -/
def Spelling.binary (s : Spelling) : List UInt8 :=
  node s.script.code (Text.Bytes.ofChars s.chars)

mutual

/-- The binary form of a document. -/
def binary : Document → List UInt8
  | .null => [0]
  | .truth true => [1]
  | .truth false => [2]
  | .number form cs => node form.code (Text.Bytes.ofChars cs)
  | .text s => s.binary
  | .array items => node 11 (itemsBinary items)
  | .object members => node 12 (membersBinary members)

/-- The binary forms of documents, one after the other. -/
def itemsBinary : List Document → List UInt8
  | [] => []
  | d :: rest => binary d ++ itemsBinary rest

/-- The binary forms of members, one after the other. -/
def membersBinary : List (Spelling × Document) → List UInt8
  | [] => []
  | (s, d) :: rest => s.binary ++ (binary d ++ membersBinary rest)

end

/-! ## Reading -/

/-- The number that bytes spell, the greatest first. -/
def ofBigEndian (bytes : List UInt8) : Nat :=
  bytes.foldl (fun n b => n * 256 + b.toNat) 0

/-- The kind and the bytes of a node at the start of bytes, and what follows it. -/
def cut? : List UInt8 → Option (Nat × List UInt8 × List UInt8)
  | [] => none
  | b :: rest =>
    let upper := b.toNat / 16
    let wide : Nat := if upper ≤ 11 then 0 else Nat.pow 2 (upper - 12)
    let size := if upper ≤ 11 then upper else ofBigEndian (rest.take wide)
    let body := rest.drop wide
    if wide ≤ rest.length ∧ size ≤ body.length then
      some (b.toNat % 16, body.take size, body.drop size)
    else none

/-- Whether bytes look like a document: a node of a known kind, and nothing behind it. -/
def isBinary (bytes : List UInt8) : Bool :=
  match cut? bytes with
  | some (kind, body, rest) => kind ≤ 12 && rest.isEmpty && (2 < kind || body.isEmpty)
  | none => false

def script? (kind : Nat) : Option Script :=
  [Script.plain, .escaped, .loose, .raw].find? fun s => s.code == kind

/-- The form of a number's kind. -/
def numeral? (kind : Nat) : Option Numeral :=
  [Numeral.whole, .hexadecimal, .decimal, .bare].find? fun f => f.code == kind

/-- Documents two by two as members. -/
def pairs? : List Document → Option (List (Spelling × Document))
  | [] => some []
  | .text s :: d :: rest => (pairs? rest).map ((s, d) :: ·)
  | _ => none

/-- The documents that bytes are, one after the other, within so many. -/
def ofNodes? : Nat → List UInt8 → Option (List Document)
  | _, [] => some []
  | 0, _ => none
  | fuel + 1, bytes => do
    let (kind, body, rest) ← cut? bytes
    let chars := Text.Bytes.chars body
    let here ←
      if kind = 11 then (ofNodes? fuel body).map array
      else if kind = 12 then ((ofNodes? fuel body).bind pairs?).map object
      else if kind ≤ 2 then
        if body.isEmpty then some ([null, truth true, truth false].getD kind null) else none
      else
        match numeral? kind, script? kind with
        | some form, _ => if body.isEmpty then none else some (number form chars)
        | none, some script => some (text ⟨script, chars⟩)
        | none, none => none
    pure (here :: (← ofNodes? fuel rest))

def ofBinary? (bytes : List UInt8) : Option Document :=
  match ofNodes? (bytes.length + 1) bytes with
  | some [d] => some d
  | _ => none

/-! ## Strictness -/

/-- Whether the spelling of a text is one that a reader finds between quotes. -/
def Spelling.isSound (s : Spelling) : Bool :=
  s.script = .raw ||
    match quoted '"' .plain true [] (s.chars ++ ['"']) with
    | .ok (t, _, rest) => rest.isEmpty && (t.script.code ≤ s.script.code || s.script = .loose)
    | .error _ => s.script = .loose

mutual

/-- Whether all numbers and texts of a document are spelled as their kinds say. -/
def isSound : Document → Bool
  | .number form cs =>
    match read (Text.Bytes.ofChars cs) with
    | .ok ⟨.number read same, _⟩ => read = form && same == cs
    | _ => false
  | .text s => s.isSound
  | .array items => areSound items
  | .object members => haveSound members
  | _ => true

def areSound : List Document → Bool
  | [] => true
  | d :: rest => isSound d && areSound rest

def haveSound : List (Spelling × Document) → Bool
  | [] => true
  | (s, d) :: rest => s.isSound && isSound d && haveSound rest

end

/-! ## Laws -/

theorem cut?_node {kind : Nat} {bytes : List UInt8} (hk : kind < 16) (hb : bytes.length ≤ 11) :
    cut? (node kind bytes) = some (kind, bytes, []) := by
  have hm : (bytes.length * 16 + kind) % 256 = bytes.length * 16 + kind := by omega
  have hu : (bytes.length * 16 + kind) / 16 = bytes.length := by omega
  have hl : (bytes.length * 16 + kind) % 16 = kind := by omega
  simp [node, header, cut?, hb, hm, hu, hl]

end SalesLedger.Sql.Document
