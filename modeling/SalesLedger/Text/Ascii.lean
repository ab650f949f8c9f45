/-!
# ASCII letters and digits

The letters A to Z and the digits 0 to 9, for formats that know no others, and the numbers that
digits spell.

Main statements: `lowerLetter_idem`, and `decimalFrom?_append`, digits can be read in two goes.
-/

namespace SalesLedger.Text

/-! ## Letters -/

/-- Whether a character is a letter A to Z in either case. -/
def isLetter (c : Char) : Bool :=
  let n := c.toNat
  (0x41 ≤ n && n ≤ 0x5a) || (0x61 ≤ n && n ≤ 0x7a)

/-- A letter A to Z in lower case; any other character as it is. -/
def lowerLetter (c : Char) : Char :=
  if 0x41 ≤ c.toNat ∧ c.toNat ≤ 0x5a then Char.ofNat (c.toNat + 0x20) else c

/-! ## Digits -/

/-- The value of a digit 0 to 9. -/
def digit? (c : Char) : Option Nat :=
  if 0x30 ≤ c.toNat ∧ c.toNat ≤ 0x39 then some (c.toNat - 0x30) else none

/-- Whether a character is a digit 0 to 9. -/
def isDigit (c : Char) : Bool :=
  (digit? c).isSome

/-- The number that digits make of one that they are appended to, if nothing else follows it. -/
def decimalFrom? (n : Nat) : List Char → Option Nat
  | [] => some n
  | c :: cs =>
    match digit? c with
    | some d => decimalFrom? (n * 10 + d) cs
    | none => none

/-- The number that a row of digits spells. -/
def decimal? : List Char → Option Nat
  | [] => none
  | c :: cs => decimalFrom? 0 (c :: cs)

/-- The whole number that a row of digits spells, with a sign before it or not. -/
def signed? : List Char → Option Int
  | '-' :: cs => (decimal? cs).map fun n => -(n : Int)
  | '+' :: cs => (decimal? cs).map fun n => (n : Int)
  | cs => (decimal? cs).map fun n => (n : Int)

/-! ## Laws -/

theorem digit?_lt {c : Char} {d : Nat} (h : digit? c = some d) : d < 10 := by
  unfold digit? at h
  split at h
  · cases h
    omega
  · cases h

theorem toNat_ofNat {n : Nat} (h : n < 0xd800) : (Char.ofNat n).toNat = n := by
  have hv : n.isValidChar := .inl h
  rw [Char.ofNat, dif_pos hv]
  rfl

theorem lowerLetter_idem (c : Char) : lowerLetter (lowerLetter c) = lowerLetter c := by
  by_cases h : 0x41 ≤ c.toNat ∧ c.toNat ≤ 0x5a
  · have hn : (Char.ofNat (c.toNat + 0x20)).toNat = c.toNat + 0x20 := toNat_ofNat (by omega)
    rw [lowerLetter, lowerLetter, if_pos h, hn, if_neg (by omega)]
  · rw [lowerLetter, lowerLetter, if_neg h, if_neg h]

theorem decimalFrom?_append (n : Nat) (cs ds : List Char) :
    decimalFrom? n (cs ++ ds) = (decimalFrom? n cs).bind fun m => decimalFrom? m ds := by
  induction cs generalizing n with
  | nil => rfl
  | cons c cs ih =>
    rw [List.cons_append, decimalFrom?, decimalFrom?]
    cases digit? c with
    | none => rfl
    | some d => exact ih _

end SalesLedger.Text
