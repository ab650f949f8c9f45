import SalesLedger.Json.Fault
import SalesLedger.Json.Value
import SalesLedger.Text.Ascii

/-!
# Reading JSON numbers

A token without point and exponent is a whole number while it fits 64 bits, counted with a sign
below zero. Every other token is a double: its digits are gathered in 64 bits for as long as they
fit, the digits after that only move the point or are dropped, and the gathered number is scaled
once by a power of ten. A result beyond the doubles is a fault, one too near zero is zero.

Main statements: `fill_le`, the gathered digits never leave 64 bits, and `length_skipDigits_le`.
-/

namespace SalesLedger.Json.Numeral

open Text (digit? isDigit)

/-- The greatest number that the digits are gathered in. -/
def largest : Nat := 0xffffffffffffffff

/-- Appends digits to a number for as long as it stays within 64 bits: the number, how many digits
went in, and the text from the first character that did not. -/
def fill (n : Nat) : List Char → Nat × Nat × List Char
  | [] => (n, 0, [])
  | c :: cs =>
    match digit? c with
    | some d =>
      if n * 10 + d ≤ largest then
        let (m, taken, rest) := fill (n * 10 + d) cs
        (m, taken + 1, rest)
      else (n, 0, c :: cs)
    | none => (n, 0, c :: cs)

/-- Passes over digits: how many, and what follows. -/
def skipDigits : List Char → Nat × List Char
  | [] => (0, [])
  | c :: cs =>
    match digit? c with
    | some _ => ((skipDigits cs).1 + 1, (skipDigits cs).2)
    | none => (0, c :: cs)

/-- A power of ten among the doubles. -/
def power (n : Nat) : Float :=
  Float.ofScientific 1 false n

/-- Gathered digits times a power of ten, nearest after each step, or nothing where the result is
beyond the doubles. Below 1e-308 the scaling takes two steps, and what needs three is zero. -/
def scale? (digits : Nat) (exponent : Int) : Option Float :=
  let x := Float.ofNat digits
  if 0 ≤ exponent then
    if exponent ≤ 308 then
      let y := x * power exponent.toNat
      if y.isInf then none else some y
    else if digits = 0 then some x
    else none
  else
    let n := exponent.natAbs
    if n ≤ 308 then some (x / power n)
    else if n ≤ 616 then some (x / power 308 / power (n - 308))
    else some 0

def signed (positive : Bool) (x : Float) : Float :=
  if positive then x else -x

/-- Ends a double whose digits and exponent are known. -/
def finish (positive : Bool) (digits : Nat) (exponent : Int) (rest : List Char) :
    Except Stop (Json × List Char) :=
  match scale? digits exponent with
  | some x => .ok (.real (signed positive x), rest)
  | none => .error (.before .outOfRange rest)

/-- The greatest exponent that is counted. -/
def largestExponent : Nat := 0x7fffffff

/-- The digits of an exponent: its value with what follows, or, where it is past counting, the
text after the digit that made it so. -/
def exponentDigits (n : Nat) : List Char → Except (List Char) (Nat × List Char)
  | [] => .ok (n, [])
  | c :: cs =>
    match digit? c with
    | some d => if n * 10 + d ≤ largestExponent then exponentDigits (n * 10 + d) cs else .error cs
    | none => .ok (n, c :: cs)

/-- What follows the letter of an exponent. -/
def exponentPart (positive : Bool) (digits : Nat) (start : Int) (cs : List Char) :
    Except Stop (Json × List Char) :=
  let (up, cs) : Bool × List Char :=
    match cs with
    | '+' :: rest => (true, rest)
    | '-' :: rest => (false, rest)
    | _ => (true, cs)
  match cs with
  | [] => .error (.before .eofValue [])
  | c :: rest =>
    match digit? c with
    | none => .error (.at .invalidNumber (c :: rest))
    | some d =>
      match exponentDigits d rest with
      | .ok (n, rest) => finish positive digits (if up then start + n else start - n) rest
      | .error rest =>
        if digits ≠ 0 ∧ up then .error (.before .outOfRange rest)
        else .ok (.real (signed positive 0), (skipDigits rest).2)

/-- Whether a character opens an exponent. -/
def opensExponent (c : Char) : Bool := c == 'e' || c == 'E'

/-- What may follow the digits of a double: an exponent or nothing. -/
def afterDigits (positive : Bool) (digits : Nat) (exponent : Int) (cs : List Char) :
    Except Stop (Json × List Char) :=
  match cs with
  | c :: rest =>
    if opensExponent c then exponentPart positive digits exponent rest
    else finish positive digits exponent cs
  | [] => finish positive digits exponent []

/-- What follows a point. -/
def fractionPart (positive : Bool) (digits : Nat) (before : Int) (cs : List Char) :
    Except Stop (Json × List Char) :=
  let (digits, taken, rest) := fill digits cs
  match rest with
  | c :: _ =>
    if isDigit c then afterDigits positive digits (before - taken) (skipDigits rest).2
    else if taken = 0 then .error (.at .invalidNumber rest)
    else afterDigits positive digits (before - taken) rest
  | [] =>
    if taken = 0 then .error (.before .eofValue [])
    else finish positive digits (before - taken) []

/-- What follows the whole part: a point, an exponent, or neither. -/
def afterWhole (positive : Bool) (digits : Nat) (skipped : Nat) (cs : List Char) :
    Except Stop (Json × List Char) :=
  match cs with
  | '.' :: rest => fractionPart positive digits skipped rest
  | c :: rest =>
    if opensExponent c then exponentPart positive digits skipped rest
    else if 0 < skipped then finish positive digits skipped cs
    else .ok (whole positive digits, cs)
  | [] => if 0 < skipped then finish positive digits skipped [] else .ok (whole positive digits, [])
where
  /-- A token of digits alone: a whole number, or a double where 64 bits with a sign do not hold
  it. A zero with a sign is the double -0.0. -/
  whole (positive : Bool) (digits : Nat) : Json :=
    if positive then .integer digits
    else if 0 < digits ∧ digits ≤ 0x8000000000000000 then .integer (-(digits : Int))
    else .real (-(Float.ofNat digits))

/-- A number, from its first digit on. -/
def read (positive : Bool) (cs : List Char) : Except Stop (Json × List Char) :=
  match cs with
  | [] => .error (.before .eofValue [])
  | c :: rest =>
    match digit? c with
    | none => .error (.at .invalidNumber (c :: rest))
    | some 0 =>
      match rest with
      | d :: _ =>
        if isDigit d then .error (.at .invalidNumber rest)
        else afterWhole positive 0 0 rest
      | [] => afterWhole positive 0 0 []
    | some d =>
      let (digits, _, rest) := fill d rest
      let (skipped, rest) := skipDigits rest
      afterWhole positive digits skipped rest

/-! ## Laws -/

theorem fill_le {n : Nat} (h : n ≤ largest) (cs : List Char) : (fill n cs).1 ≤ largest := by
  induction cs generalizing n with
  | nil => simpa [fill] using h
  | cons c cs ih =>
    rw [fill]
    split
    · split
      · rename_i hd
        exact ih hd
      · exact h
    · exact h

theorem length_skipDigits_le (cs : List Char) : (skipDigits cs).2.length ≤ cs.length := by
  induction cs with
  | nil => simp [skipDigits]
  | cons c cs ih =>
    rw [skipDigits]
    split
    · simp only [List.length_cons]
      omega
    · exact Nat.le_refl _

end SalesLedger.Json.Numeral
