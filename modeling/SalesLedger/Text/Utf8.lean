/-!
# Bytes as text

Reading bytes that should be UTF-8. A well-formed character stands for itself; wherever the bytes
cannot begin or continue one, the longest part that could have been its beginning becomes one
replacement character.
-/

namespace SalesLedger.Text.Utf8

/-- The character that stands for bytes that are no text. -/
def replacement : Char := Char.ofNat 0xfffd

/-- What a leading byte asks for: how many bytes follow it, the range of the first of them, and
its own share of the character's number. -/
def lead? (b : Nat) : Option (Nat × Nat × Nat × Nat) :=
  if 0xc2 ≤ b && b ≤ 0xdf then some (1, 0x80, 0xbf, b - 0xc0)
  else if b == 0xe0 then some (2, 0xa0, 0xbf, 0)
  else if b == 0xed then some (2, 0x80, 0x9f, 0xd)
  else if 0xe1 ≤ b && b ≤ 0xef then some (2, 0x80, 0xbf, b - 0xe0)
  else if b == 0xf0 then some (3, 0x90, 0xbf, 0)
  else if 0xf1 ≤ b && b ≤ 0xf3 then some (3, 0x80, 0xbf, b - 0xf0)
  else if b == 0xf4 then some (3, 0x80, 0x8f, 4)
  else none

/-- A character whose bytes are not all read: how many are missing, the range of the next one,
and the number so far. -/
structure Pending where
  missing : Nat
  low : Nat
  high : Nat
  value : Nat

/-- What a byte begins, when no character is open: a finished character or a pending one. -/
def begin (b : Nat) : List Char × Option Pending :=
  if b < 0x80 then ([Char.ofNat b], none)
  else
    match lead? b with
    | some (missing, low, high, value) => ([], some ⟨missing, low, high, value⟩)
    | none => ([replacement], none)

/-- The text of the bytes, with a character possibly open. -/
def read : Option Pending → List UInt8 → List Char
  | none, [] => []
  | some _, [] => [replacement]
  | none, b :: bs =>
    let (here, next) := begin b.toNat
    here ++ read next bs
  | some p, b :: bs =>
    let n := b.toNat
    if p.low ≤ n && n ≤ p.high then
      let value := p.value * 64 + (n - 0x80)
      if p.missing ≤ 1 then Char.ofNat value :: read none bs
      else read (some ⟨p.missing - 1, 0x80, 0xbf, value⟩) bs
    else
      let (here, next) := begin n
      replacement :: (here ++ read next bs)

/-- The text that the bytes spell. -/
def ofBytes (bytes : List UInt8) : String :=
  String.ofList (read none bytes)

/-- The bytes that spell a text. -/
def toBytes (s : String) : List UInt8 :=
  s.toUTF8.data.toList

/-- How many bytes the characters take. -/
def size (cs : List Char) : Nat :=
  cs.foldr (fun c n => c.utf8Size + n) 0

/-! ## Laws -/

@[simp] theorem ofBytes_nil : ofBytes [] = "" := rfl

example : ofBytes [0x61, 0xe2, 0x82, 0xac] = "a€" := by decide

example : ofBytes [0xe2, 0x82, 0x61] = "\ufffda" := by decide

example : ofBytes [0xed, 0xa0, 0x80] = "\ufffd\ufffd\ufffd" := by decide

@[simp] theorem size_nil : size [] = 0 := rfl

@[simp] theorem size_cons (c : Char) (cs : List Char) :
    size (c :: cs) = c.utf8Size + size cs := rfl

end SalesLedger.Text.Utf8
