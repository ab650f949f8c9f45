import SalesLedger.Decimal.Extended

/-!
# Doubles as fifteen-digit text

The text that a number becomes in a column of texts: at most fifteen significant digits, a half
rounded away from zero, always a point with a digit after it, and an exponent only below 1e-4 and
from 1e15 on.
-/

namespace SalesLedger.Decimal.Significant

/-- The digits of a positive finite double and the place of its point, before rounding: the number
is scaled until its whole part has eighteen or nineteen digits. -/
def wholeDigits (x : Float) : List Nat × Int :=
  let a := Extended.ofFloat x
  let below (k : Int) (b : Extended) : Bool := b.lt (Extended.powerOfTen k)
  let atLeast (k : Int) (b : Extended) : Bool := !below k b
  let (scaled, exponent) : Extended × Int :=
    if atLeast 19 a then
      let (b, hundreds) := Extended.scaleWhile (atLeast 119) (Extended.powerOfTen (-100)) 4 a
      let (c, tens) := Extended.scaleWhile (atLeast 29) (Extended.powerOfTen (-10)) 12 b
      let (d, ones) := Extended.scaleWhile (atLeast 19) (Extended.powerOfTen (-1)) 12 c
      (d, hundreds * 100 + tens * 10 + ones)
    else
      let (b, hundreds) := Extended.scaleWhile (below (-97)) (Extended.powerOfTen 100) 4 a
      let (c, tens) := Extended.scaleWhile (below 7) (Extended.powerOfTen 10) 12 b
      let (d, ones) := Extended.scaleWhile (below 17) (Extended.powerOfTen 1) 12 c
      (d, -((hundreds * 100 + tens * 10 + ones : Nat) : Int))
  let digits := (Nat.toDigits 10 scaled.floor).map fun c => c.toNat - '0'.toNat
  (digits, digits.length + exponent)

/-- One more in the last place; a carry out of the first digit makes a digit more. -/
def increment (digits : List Nat) : List Nat × Bool :=
  digits.foldr
    (fun d (rest, carry) =>
      if carry then if d == 9 then (0 :: rest, true) else ((d + 1) :: rest, false)
      else (d :: rest, false))
    ([], true)

/-- The first digits, rounded by the one behind them, and the place of the point. -/
def first (count : Nat) (digits : List Nat) (point : Int) : List Nat × Int :=
  match digits.drop count with
  | [] => (digits, point)
  | next :: _ =>
    if next < 5 then (digits.take count, point)
    else
      let (raised, carry) := increment (digits.take count)
      if carry then (1 :: raised, point + 1) else (raised, point)

/-- A list without the zeros at its end. -/
def dropLastZeros (digits : List Nat) : List Nat :=
  (digits.reverse.dropWhile (· == 0)).reverse

def characters (digits : List Nat) : List Char :=
  digits.map Nat.digitChar

/-- Digits after a point, with a zero where there is none. -/
def fraction (digits : List Nat) : List Char :=
  match dropLastZeros digits with
  | [] => ['0']
  | kept => characters kept

/-- An exponent with its sign and at least two digits. -/
def exponentText (e : Int) : List Char :=
  let digits := Nat.toDigits 10 e.natAbs
  (if e < 0 then '-' else '+') :: (List.replicate (2 - digits.length) '0' ++ digits)

/-- The digits with a point at the given place, or with an exponent. -/
def place (digits : List Nat) (point : Int) : List Char :=
  let exponent := point - 1
  if exponent < -4 ∨ 14 < exponent then
    characters (digits.take 1) ++ '.' :: fraction (digits.drop 1) ++ 'e' :: exponentText exponent
  else if point ≤ 0 then
    '0' :: '.' :: fraction (List.replicate (-point).toNat 0 ++ digits)
  else
    let whole := digits.take point.toNat
    characters (whole ++ List.replicate (point.toNat - whole.length) 0) ++
      '.' :: fraction (digits.drop point.toNat)

/-- The text of a double that is a number. -/
def text (x : Float) : String :=
  let negative := x < 0
  let magnitude := Float.abs x
  let body :=
    if magnitude == 0 then ['0', '.', '0']
    else if magnitude.isInf then ['I', 'n', 'f']
    else
      let (digits, point) := wholeDigits magnitude
      let (kept, point') := first 15 digits point
      place kept point'
  String.ofList (if negative then '-' :: body else body)

/-! ## Examples -/

example : text 0.1 = "0.1" := by decide +kernel

example : text (-2.5e-7) = "-2.5e-07" := by decide +kernel

example : text 1e15 = "1.0e+15" := by decide +kernel

example : text 123456789012345678 = "1.23456789012346e+17" := by decide +kernel

end SalesLedger.Decimal.Significant
