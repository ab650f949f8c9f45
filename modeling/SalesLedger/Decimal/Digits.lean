import SalesLedger.Decimal.Significant

/-!
# Digits of doubles

The digits of a double that a format asks for: so many of them in all, or so many behind the point.
A double has no more digits than are worked out for it, so digits beyond those are zeros. No digits
behind the point means that none are rounded away: the format just leaves off what it does not
show.

Main statement: `of?_zero`, zero is one digit before the point.
-/

namespace SalesLedger.Decimal

/-- How many digits are wanted. -/
inductive Precision where
  /-- In all. -/
  | significant (n : Nat)
  /-- Behind the point. -/
  | places (n : Nat)
  deriving Repr, DecidableEq

/-- The digits of a double, and where the point stands among them. -/
structure Digits where
  isNegative : Bool
  /-- The digits, without zeros at their end. -/
  digits : List Nat
  /-- How many digits stand before the point; below zero, how many zeros behind it. -/
  point : Int
  deriving Repr, DecidableEq

namespace Digits

/-- Digits rounded to so many, of which no more than `most` count. -/
def kept (count : Int) (most : Nat) (digits : List Nat) (point : Int) : List Nat × Int :=
  if 0 < count ∧ (count < digits.length ∨ most < digits.length) then
    Significant.first (min count.toNat most) digits point
  else (digits, point)

/-- Digits rounded as wanted. Where the first digit that is left off stands right behind the point,
it may make a one before it. -/
def rounded (p : Precision) (most : Nat) (digits : List Nat) (point : Int) : List Nat × Int :=
  match p with
  | .significant n => kept n most digits point
  | .places 0 => (digits, point)
  | .places n =>
    let count := point + n
    if count = 0 ∧ 5 ≤ digits.headD 0 then kept 1 most (0 :: digits) (point + 1)
    else kept count most digits point

/-- The digits of a double, of which no more than `most` count; none, where it is infinite. -/
def of? (x : Float) (p : Precision) (most : Nat) : Option Digits :=
  if x == 0 then some ⟨false, [0], 1⟩
  else if !x.isFinite then none
  else
    let (digits, point) := Significant.wholeDigits x.abs
    let (digits, point) := rounded p most digits point
    some ⟨x < 0, Significant.dropLastZeros digits, point⟩

/-! ## Laws -/

theorem of?_zero (p : Precision) (most : Nat) : of? 0 p most = some ⟨false, [0], 1⟩ := by
  rw [of?, if_pos (by decide +kernel)]

example : of? 2.675 (.places 2) 16 = some ⟨false, [2, 6, 7], 1⟩ := by decide +kernel

example : of? 0.07 (.places 1) 16 = some ⟨false, [1], 0⟩ := by decide +kernel

example : of? 100.5 (.places 0) 16 = some ⟨false, [1, 0, 0, 5], 3⟩ := by decide +kernel

end Digits

end SalesLedger.Decimal
