import SalesLedger.Decimal.Extended
import SalesLedger.Decimal.Signed64
import SalesLedger.Text.Ascii
import SalesLedger.Text.Blank

/-!
# Numbers in the text of a cell

How a text counts where a number is wanted. A text is a number if nothing but blanks surrounds it:
a sign, digits with a point among them or not, and an exponent or not. Any text has a value, that
of the longest beginning that is a number, which is zero where there is none.
-/

namespace SalesLedger.Sql.Numeral

open Text (digit? isDigit)

/-- Digits are gathered while the number stays below this bound, so that one more always fits
64 bits. -/
def gatherBound : Nat := (0x10000000000000000 - 10) / 10

def sign (cs : List Char) : Bool × List Char :=
  match cs with
  | '-' :: rest => (true, rest)
  | '+' :: rest => (false, rest)
  | _ => (false, cs)

/-- A text without the ASCII blanks at its start. -/
def skipBlanks (cs : List Char) : List Char := cs.dropWhile Text.isAsciiBlank

/-- The digits before a point: the number gathered, how many went in, how many came after the
bound was met, and the rest. -/
def wholeDigits (n gathered dropped : Nat) : List Char → Nat × Nat × Nat × List Char
  | [] => (n, gathered, dropped, [])
  | c :: cs =>
    match digit? c with
    | some d =>
      if n < gatherBound then wholeDigits (n * 10 + d) (gathered + 1) dropped cs
      else wholeDigits n gathered (dropped + 1) cs
    | none => (n, gathered, dropped, c :: cs)

/-- The digits after a point: the number gathered, how many of them went in, and the rest. -/
def pointDigits (n gathered : Nat) : List Char → Nat × Nat × List Char
  | [] => (n, gathered, [])
  | c :: cs =>
    match digit? c with
    | some d =>
      if n < gatherBound then pointDigits (n * 10 + d) (gathered + 1) cs
      else pointDigits n gathered cs
    | none => (n, gathered, c :: cs)

/-- The digits of an exponent, counted no further than to some ten thousands. -/
def exponentDigits (n : Nat) : List Char → Nat × List Char
  | [] => (n, [])
  | c :: cs =>
    match digit? c with
    | some d => exponentDigits (if n < 10000 then n * 10 + d else 10000) cs
    | none => (n, c :: cs)

/-- What a text reads as. -/
structure Reading where
  /-- The value of its longest beginning that is a number. -/
  value : Float
  /-- Whether it is a number from end to end. -/
  wellFormed : Bool
  /-- Whether it has neither point nor exponent. -/
  digitsOnly : Bool
  /-- Whether that beginning has digits and a point or a whole exponent. -/
  decimalStart : Bool

/-- Raises a number to use up an exponent above zero, as far as 64 bits allow. -/
def raise : Nat → Nat → Nat × Nat
  | n, 0 => (n, 0)
  | n, e + 1 => if n < 0xffffffffffffffff / 10 then raise (n * 10) e else (n, e + 1)

/-- Drops zeros from a number to use up an exponent below zero. -/
def lower : Nat → Nat → Nat × Nat
  | n, 0 => (n, 0)
  | n, e + 1 => if n % 10 = 0 then lower (n / 10) e else (n, e + 1)

/-- The greatest double. -/
def greatest : Decimal.Extended := ⟨0x1fffffffffffff, 971⟩

/-- A number times a power of ten, worked out with 64-bit significands. -/
def scale (n : Nat) (e : Int) : Float :=
  if n = 0 then 0
  else
    let (n, e) : Nat × Int :=
      if 0 < e then
        let (n, e) := raise n e.toNat
        (n, (e : Int))
      else
        let (n, e) := lower n e.natAbs
        (n, -(e : Int))
    let r := Decimal.Extended.shiftDecimal (Decimal.Extended.ofNat n) e
    if greatest.lt r then 1 / 0 else r.toFloat

/-- Reads the text of a cell as a number. -/
def read (cs : List Char) : Reading :=
  let (negative, cs) := sign (skipBlanks cs)
  let (n, gathered, dropped, cs) := wholeDigits 0 0 0 cs
  let (n, gathered, exponent, hasPoint, cs) : Nat × Nat × Int × Bool × List Char :=
    match cs with
    | '.' :: rest =>
      let (n, more, rest) := pointDigits n 0 rest
      (n, gathered + more, (dropped : Int) - more, true, rest)
    | _ => (n, gathered, dropped, false, cs)
  let (power, exponentRead, hasExponent, cs) : Int × Bool × Bool × List Char :=
    match cs with
    | c :: rest =>
      if c == 'e' || c == 'E' then
        let (down, rest) := sign rest
        let (e, after) := exponentDigits 0 rest
        (if down then -(e : Int) else e, after.length < rest.length, true, after)
      else (0, true, false, cs)
    | [] => (0, true, false, [])
  let value := scale n (exponent + power)
  { value := if negative then -value else value
    wellFormed := (skipBlanks cs).isEmpty && 0 < gathered && exponentRead
    digitsOnly := !hasPoint && !hasExponent
    decimalStart := 0 < gathered &&
      (hasPoint && hasExponent || (hasPoint || hasExponent) && exponentRead) }

/-- The whole number at the start of a text, and whether only blanks follow it and it fits 64 bits
with a sign. A text that starts with no digits has none. -/
def whole? (cs : List Char) : Option (Int × Bool) :=
  let (negative, cs) := sign (skipBlanks cs)
  match Text.decimal? (cs.takeWhile isDigit) with
  | none => none
  | some magnitude =>
    let n : Int := if negative then -(magnitude : Int) else magnitude
    if Fits64 n then some (n, (skipBlanks (cs.dropWhile isDigit)).isEmpty) else some (n, false)

end SalesLedger.Sql.Numeral
