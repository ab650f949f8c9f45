/-!
# Doubles as exact numbers

A double is a whole number of units of 2^-1074, the least positive double. Comparing doubles with
each other or with whole numbers through their units is exact, and it is a total order on the
values, with 0.0 and -0.0 equal.

Main statements: `units_ofInt_le_iff`, the units order whole numbers as they are ordered.
-/

namespace SalesLedger.Decimal.Binary64

/-- Sign, whole significand and exponent of two of a finite double. An infinity reads as a
magnitude of 2^1024, beyond every finite double. -/
structure Parts where
  negative : Bool
  significand : Nat
  exponent : Int
  deriving Repr, DecidableEq

/-- The leading bit of a significand, which the bits of a double leave out. -/
def leadingBit : Nat := 0x10000000000000

/-- The parts that the 64 bits of a double spell. -/
def parts (x : Float) : Parts :=
  let bits : Nat := x.toBits.toNat
  let biased : Nat := bits / leadingBit % 2048
  let fraction : Nat := bits % leadingBit
  { negative := 0x8000000000000000 ≤ bits
    significand := if biased = 0 then fraction else leadingBit + fraction
    exponent := if biased = 0 then -1074 else (biased : Int) - 1075 }

def units (x : Float) : Int :=
  let p := parts x
  let magnitude := p.significand <<< (p.exponent + 1074).toNat
  if p.negative then -(magnitude : Int) else magnitude

/-- How many units make one. -/
def unitsOfOne : Nat := 1 <<< 1074

/-- A whole number in units of 2^-1074. -/
def unitsOfInt (n : Int) : Int :=
  n * unitsOfOne

/-- The whole number that a double is, if it is one. -/
def exactInt? (x : Float) : Option Int :=
  if x.isFinite && units x % unitsOfOne == 0 then some (units x / unitsOfOne) else none

/-- `n / 2 ^ s` to the nearest whole number, a half going to the even neighbour. -/
def halfEven (n s : Nat) : Nat :=
  let quotient := n >>> s
  let rest := n % (1 <<< s)
  let half := (1 <<< s) / 2
  if s = 0 ∨ rest < half then quotient
  else if half < rest then quotient + 1
  else quotient + quotient % 2

/-- How many of the last bits of a whole number a double has no room for. -/
def spareBits (n : Nat) : Nat :=
  n.log2 - 52

/-- The natural number that the double nearest to a natural number is, ties to even, however large
it is. -/
def roundedNat (n : Nat) : Nat :=
  halfEven n (spareBits n) <<< spareBits n

/-- The whole number that the double nearest to a whole number is. -/
def rounded (n : Int) : Int :=
  if n < 0 then -(roundedNat n.natAbs : Int) else roundedNat n.natAbs

/-- The double nearest to `n · 2 ^ e`, ties to even, and an infinity where it is too large. -/
def nearest (n : Nat) (e : Int) : Float :=
  if n = 0 then 0
  else
    let least := max ((n.log2 : Int) + e - 52) (-1074)
    let kept := if least ≤ e then n <<< (e - least).toNat else halfEven n (least - e).toNat
    let bits := (least + 1074).toNat * leadingBit + kept
    if bits < 2047 * leadingBit then Float.ofBits (UInt64.ofNat bits)
    else Float.ofBits (UInt64.ofNat (2047 * leadingBit))

/-! ## Laws -/

theorem unitsOfOne_pos : 0 < unitsOfOne := by decide +kernel

theorem units_ofInt_le_iff {a b : Int} : unitsOfInt a ≤ unitsOfInt b ↔ a ≤ b := by
  have hpos : (0 : Int) < unitsOfOne := Int.natCast_pos.2 unitsOfOne_pos
  constructor
  · intro h
    exact Int.le_of_mul_le_mul_right h hpos
  · intro h
    exact Int.mul_le_mul_of_nonneg_right h (Int.le_of_lt hpos)

example : exactInt? 3.0 = some 3 := by decide +kernel

example : exactInt? 2.5 = none := by decide +kernel

example : exactInt? (-0.0) = some 0 := by decide +kernel

example : nearest 3 (-1) = 1.5 := by decide +kernel

example : rounded (2 ^ 53 + 1) = 2 ^ 53 ∧ rounded (-(2 ^ 53 + 3)) = -(2 ^ 53 + 4) := by
  decide +kernel

end SalesLedger.Decimal.Binary64
