import SalesLedger.Decimal.Binary64

/-!
# Numbers with a 64-bit significand

Nonnegative numbers `significand · 2 ^ exponent` with at most 64 bits of significand. The engine
scales decimals in this precision, so a text with many digits reads as the double that this
arithmetic leads to.
-/

namespace SalesLedger.Decimal

/-- A nonnegative number in the wider format. -/
structure Extended where
  significand : Nat
  exponent : Int
  deriving Repr, DecidableEq

namespace Extended

/-- `n · 2 ^ e` rounded to 64 bits, ties to even. -/
def round (n : Nat) (e : Int) : Extended :=
  let excess := n.log2 - 63
  ⟨Binary64.halfEven n excess, e + excess⟩

/-- `n / d` rounded to 64 bits, ties to even. -/
def ofRatio (n d : Nat) : Extended :=
  let shift := d.log2 + 66 - n.log2
  let scaled := n <<< shift
  let quotient := scaled / d
  let inexact := if scaled % d = 0 then 0 else 1
  -- a last bit that tells whether anything is left keeps the rounding exact
  round (2 * quotient + inexact) (-(shift : Int) - 1)

/-- A whole number of at most 64 bits. -/
def ofNat (n : Nat) : Extended :=
  round n 0

/-- The power `10 ^ k`, rounded. -/
def powerOfTen (k : Int) : Extended :=
  if 0 ≤ k then round (Nat.pow 10 k.toNat) 0 else ofRatio 1 (Nat.pow 10 (-k).toNat)

/-- The rounded product. -/
def mul (a b : Extended) : Extended :=
  round (a.significand * b.significand) (a.exponent + b.exponent)

/-- Whether one number is less than the other. -/
def lt (a b : Extended) : Bool :=
  let e := min a.exponent b.exponent
  a.significand <<< (a.exponent - e).toNat < b.significand <<< (b.exponent - e).toNat

/-- The whole part. -/
def floor (a : Extended) : Nat :=
  (a.significand <<< a.exponent.toNat) >>> (-a.exponent).toNat

/-- The double nearest to the number. -/
def toFloat (a : Extended) : Float :=
  Binary64.nearest a.significand a.exponent

/-- The number that a nonnegative double is. -/
def ofFloat (x : Float) : Extended :=
  let p := Binary64.parts x
  ⟨p.significand, p.exponent⟩

/-- Multiplies by `factor` for as long as `more` says, at most `fuel` times, counting. -/
def scaleWhile (more : Extended → Bool) (factor : Extended) : Nat → Extended → Extended × Nat
  | 0, a => (a, 0)
  | fuel + 1, a =>
    if more a then
      let (b, n) := scaleWhile more factor fuel (a.mul factor)
      (b, n + 1)
    else (a, 0)

/-- Multiplies by `factor` a fixed number of times. -/
def scaleTimes (factor : Extended) : Nat → Extended → Extended
  | 0, a => a
  | n + 1, a => scaleTimes factor n (a.mul factor)

/-- The number times `10 ^ k`, by hundreds, tens and ones of the exponent. -/
def shiftDecimal (a : Extended) (k : Int) : Extended :=
  let n := k.natAbs
  let sign : Int := if k < 0 then -1 else 1
  scaleTimes (powerOfTen sign) (n % 10)
    (scaleTimes (powerOfTen (sign * 10)) (n % 100 / 10)
      (scaleTimes (powerOfTen (sign * 100)) (n / 100) a))

/-! ## Examples -/

example : (ofRatio 1 2).toFloat = 0.5 := by decide +kernel

example : (powerOfTen (-1)).toFloat = 0.1 := by decide +kernel

example : (shiftDecimal (ofNat 15) (-1)).toFloat = 1.5 := by decide +kernel

end Extended

end SalesLedger.Decimal
