import SalesLedger.Text.Utf8

/-!
# Texts as bytes

A text that need not be well-formed UTF-8 is a row of bytes. A byte from 0xc0 on begins a character
and takes along every byte behind it that only goes on with one; any other byte is a character of
its own. A byte can also be looked at as the character with its number, as formats do that know
ASCII only.

Main statements: `flatten_characters`, cutting bytes into characters loses none, and
`ofChars_chars`, looking at bytes as characters loses nothing either.
-/

namespace SalesLedger.Text.Bytes

/-! ## Characters -/

/-- Whether a byte goes on with a character that began before it. -/
def isTail (b : UInt8) : Bool := 0x80 ≤ b.toNat && b.toNat < 0xc0

/-- The tails that bytes begin with, and the characters behind them. -/
def cut : List UInt8 → List UInt8 × List (List UInt8)
  | [] => ([], [])
  | b :: bs =>
    if isTail b then (b :: (cut bs).1, (cut bs).2)
    else if 0xc0 ≤ b.toNat then ([], (b :: (cut bs).1) :: (cut bs).2)
    else ([], [b] :: ((cut bs).1.map (fun t => [t]) ++ (cut bs).2))

/-- The characters that bytes are cut into. -/
def characters (bs : List UInt8) : List (List UInt8) :=
  (cut bs).1.map (fun t => [t]) ++ (cut bs).2

/-- What a leading byte has of the number of its character. -/
def share (b : Nat) : Nat :=
  if b < 0xc0 then b
  else if b < 0xe0 then b - 0xc0
  else if b < 0xf0 then b - 0xe0
  else if b < 0xf8 then b - 0xf0
  else if b < 0xfc then b - 0xf8
  else if b = 0xfd then 1
  else 0

/-- The number of a character. What is no character of Unicode has that of the replacement. -/
def number : List UInt8 → Nat
  | [] => 0
  | [b] => if b.toNat < 0xc0 then b.toNat else replaced 0
  | b :: tails =>
    replaced (tails.foldl (fun n t => (n * 64 + t.toNat % 64) % 0x100000000) (share b.toNat))
where
  /-- The number itself, or that of the replacement character. -/
  replaced (n : Nat) : Nat :=
    if n < 0x80 ∨ (0xd800 ≤ n ∧ n < 0xe000) ∨ n = 0xfffe ∨ n = 0xffff then 0xfffd else n

/-- The numbers of the characters that bytes are cut into. -/
def numbers (bs : List UInt8) : List Nat :=
  (characters bs).map number

/-- The bytes of the character with a number. -/
def ofNumber (n : Nat) : List UInt8 :=
  let tail (n : Nat) : UInt8 := UInt8.ofNat (0x80 + n % 64)
  if n < 0x80 then [UInt8.ofNat n]
  else if n < 0x800 then [UInt8.ofNat (0xc0 + n / 64), tail n]
  else if n < 0x10000 then [UInt8.ofNat (0xe0 + n / 0x1000), tail (n / 64), tail n]
  else [UInt8.ofNat (0xf0 + n / 0x40000), tail (n / 0x1000), tail (n / 64), tail n]

/-- The bytes before the first zero. -/
def upToZero (bs : List UInt8) : List UInt8 :=
  bs.takeWhile (· != 0)

/-! ## One character for each byte -/

/-- Each byte as the character with its number. -/
def chars (bs : List UInt8) : List Char :=
  bs.map fun b => Char.ofNat b.toNat

/-- The bytes that are looked at as characters. -/
def ofChars (cs : List Char) : List UInt8 :=
  cs.map fun c => UInt8.ofNat c.toNat

/-! ## Laws -/

theorem flatten_singletons (bs : List UInt8) : (bs.map fun b => [b]).flatten = bs := by
  induction bs with
  | nil => rfl
  | cons b bs ih => simp [ih]

theorem flatten_cut (bs : List UInt8) : (cut bs).1 ++ (cut bs).2.flatten = bs := by
  induction bs with
  | nil => rfl
  | cons b bs ih =>
    rw [cut]
    split
    · simpa using ih
    · split
      · simpa using ih
      · simpa [flatten_singletons] using ih

theorem flatten_characters (bs : List UInt8) : (characters bs).flatten = bs := by
  rw [characters, List.flatten_append, flatten_singletons]
  exact flatten_cut bs

theorem upToZero_eq {bs : List UInt8} (h : ∀ b ∈ bs, b ≠ 0) : upToZero bs = bs := by
  induction bs with
  | nil => rfl
  | cons b bs ih =>
    have hb : (b != 0) = true := by simpa using h b (by simp)
    rw [upToZero, List.takeWhile_cons, if_pos hb]
    exact congrArg (b :: ·) (ih fun c hc => h c (by simp [hc]))

theorem ofChars_chars (bs : List UInt8) : ofChars (chars bs) = bs := by
  induction bs with
  | nil => rfl
  | cons b bs ih =>
    have hb := b.toNat_lt
    have hv : b.toNat.isValidChar := .inl (by omega)
    have hn : (Char.ofNat b.toNat).toNat = b.toNat := by
      rw [Char.ofNat, dif_pos hv]
      rfl
    rw [chars, ofChars, List.map_cons, List.map_cons, hn, UInt8.ofNat_toNat]
    exact congrArg (b :: ·) ih

example : numbers [0x61, 0xe2, 0x82, 0xac] = [0x61, 0x20ac] := by decide

example : characters [0x80, 0xc3, 0xb6, 0xb6] = [[0x80], [0xc3, 0xb6, 0xb6]] := by decide

end SalesLedger.Text.Bytes
