import SalesLedger.Decimal.Binary64

/-!
# Shortest decimals

The decimal that stands for a double in an answer: of the decimals that read back as the double,
one with the fewest digits, and of those the nearest. Everything is exact arithmetic on natural
numbers: a double `m · 2^q` is the nearest one to every number between its two midpoints, the
midpoints included when `m` is even.
-/

namespace SalesLedger.Decimal

/-- The number `digits · 10 ^ exponent`. -/
structure Scientific where
  digits : Nat
  exponent : Int
  deriving Repr, DecidableEq

namespace Shortest

/-- How many decimal digits a number has. -/
def digitCount (n : Nat) : Nat :=
  (Nat.toDigits 10 n).length

/-- The numbers that a double stands for, in quarters of `2 ^ exponent`: the least, the double
itself and the greatest, and whether the two ends belong to them. -/
structure Span where
  low : Nat
  value : Nat
  high : Nat
  exponent : Int
  closed : Bool
  deriving Repr, DecidableEq

/-- The span of a double. Below a power of two the neighbour is twice as near. -/
def Span.of (x : Float) : Span :=
  let p := Binary64.parts x
  let m := p.significand
  let narrow := m == Binary64.leadingBit && p.exponent != -1074
  { low := if narrow then 4 * m - 1 else 4 * m - 2
    value := 4 * m
    high := 4 * m + 2
    exponent := p.exponent - 2
    closed := m % 2 == 0 }

/-- What a number of quarters is multiplied with, and what it is compared in units of, on the grid
of multiples of `10 ^ k`. -/
def Span.scale (s : Span) (k : Int) : Nat × Nat :=
  (Nat.pow 10 (-k).toNat <<< s.exponent.toNat, Nat.pow 10 k.toNat <<< (-s.exponent).toNat)

/-- Whether `d · 10 ^ k` reads back as the double. -/
def Span.contains (s : Span) (k : Int) (d : Nat) : Bool :=
  let (up, unit) := s.scale k
  if s.closed then s.low * up ≤ d * unit && d * unit ≤ s.high * up
  else s.low * up < d * unit && d * unit < s.high * up

/-- The multiple of `10 ^ k` nearest to the double among those that read back as it, a tie going
to the even one. Only the two neighbours of the value need a look: if any multiple reads back,
one of these does. -/
def Span.onGrid? (s : Span) (k : Int) : Option Scientific :=
  let (up, unit) := s.scale k
  let below := s.value * up / unit
  let above := below + 1
  match s.contains k below, s.contains k above with
  | true, true =>
    let toBelow := s.value * up - below * unit
    let toAbove := above * unit - s.value * up
    if toBelow < toAbove || (toBelow == toAbove && below % 2 == 0) then some ⟨below, k⟩
    else some ⟨above, k⟩
  | true, false => some ⟨below, k⟩
  | false, true => some ⟨above, k⟩
  | false, false => none

/-- The power of ten just above the double: `10 ^ (p - 1) ≤ x < 10 ^ p`. -/
def Span.magnitude (s : Span) : Int :=
  let (up, unit) := s.scale 0
  if unit ≤ s.value * up then digitCount (s.value * up / unit)
  else 1 - (digitCount (unit / (s.value * up)) : Int)

/-- The same number without zeros at the end of its digits. -/
def dropZeros : Nat → Scientific → Scientific
  | 0, d => d
  | fuel + 1, d =>
    if d.digits % 10 == 0 && d.digits != 0 then dropZeros fuel ⟨d.digits / 10, d.exponent + 1⟩
    else d

/-- The shortest decimal of a finite double, its sign left out. Seventeen digits always suffice. -/
def ofFloat (x : Float) : Scientific :=
  let s := Span.of x
  if s.value == 0 then ⟨0, 0⟩
  else
    let top := s.magnitude
    match (List.range 17).findSome? fun n => s.onGrid? (top - (n + 1 : Nat)) with
    | some d => dropZeros 17 d
    | none => ⟨0, 0⟩

end Shortest

/-! ## Examples -/

example : Shortest.ofFloat 0.1 = ⟨1, -1⟩ := by decide +kernel

example : Shortest.ofFloat 5e-324 = ⟨5, -324⟩ := by decide +kernel

example : Shortest.ofFloat 9007199254740993 = ⟨9007199254740992, 0⟩ := by decide +kernel

end SalesLedger.Decimal
