import SalesLedger.Decimal.Signed64
import SalesLedger.Sql.Affinity
import SalesLedger.Sql.Fault

/-!
# Summing up cells

What a group of cells sums up to. Cells without a value never count. A sum of whole numbers is
whole and exact, and a fault where it leaves 64 bits; once a double takes part, the sum is a double
that carries the rounding error of every addition along and adds it at the end.

Main statements: `Total.add_null`, a cell without a value changes no sum, and `Total.foldl_whole`,
a sum of whole numbers within 64 bits is their exact sum.
-/

namespace SalesLedger.Sql

/-- How the cells of a group are summed up. -/
inductive Aggregate where
  | sum
  | average
  | count
  | countDistinct
  deriving Repr, DecidableEq

/-! ## Compensated sums -/

/-- A sum of doubles with the rounding error so far. -/
structure Compensated where
  sum : Float
  error : Float
  deriving DecidableEq

namespace Compensated

/-- Adds a double. What the addition lost goes into the error, worked out from the smaller of the
two. -/
def add (s : Compensated) (x : Float) : Compensated :=
  let t := s.sum + x
  let lost := if s.sum.abs > x.abs then (s.sum - t) + x else (x - t) + s.sum
  ⟨t, s.error + lost⟩

/-- From this magnitude on a whole number is added in two parts, which doubles hold exactly. -/
def splitAt : Int := 4503599627370496

/-- A large whole number as a multiple of 16384 and a remainder of its sign. -/
def split (n : Int) : Int × Int :=
  let low := n.tmod 16384
  (n - low, low)

/-- Whether a whole number is added in two parts. -/
def isLarge (n : Int) : Bool := n ≤ -splitAt || splitAt ≤ n

/-- The sum that begins with a whole number. -/
def ofInt (n : Int) : Compensated :=
  if isLarge n then
    let (high, low) := split n
    ⟨Float.ofInt high, Float.ofInt low⟩
  else ⟨Float.ofInt n, 0⟩

/-- Adds a whole number. -/
def addInt (s : Compensated) (n : Int) : Compensated :=
  if isLarge n then
    let (high, low) := split n
    (s.add (Float.ofInt high)).add (Float.ofInt low)
  else s.add (Float.ofInt n)

/-- The sum with its error, unless the error is no number. -/
def value (s : Compensated) : Float :=
  if s.error.isNaN then s.sum else s.sum + s.error

end Compensated

/-! ## Running totals -/

/-- The total of the cells so far. -/
inductive Total where
  /-- The exact sum of whole numbers. -/
  | whole (n : Int)
  /-- A sum of doubles. It is marked while it is one only because whole numbers left 64 bits. -/
  | approximate (s : Compensated) (overflowed : Bool)
  deriving DecidableEq

/-- The number that a cell counts as in a sum. -/
def numericOf : Cell → Cell
  | .text s =>
    match Affinity.numberOf (.text s) with
    | .text _ => .real (Numeral.read s.toList).value
    | c => c
  | .blob bytes => .real (Numeral.read (Text.Utf8.ofBytes bytes).toList).value
  | c => c

namespace Total

/-- Adds a whole number. -/
def addInt (n : Int) : Total → Total
  | whole m =>
    if Fits64 (m + n) then whole (m + n)
    else approximate ((Compensated.ofInt m).addInt n) true
  | approximate s overflowed => approximate (s.addInt n) overflowed

def addReal (x : Float) : Total → Total
  | whole m => approximate ((Compensated.ofInt m).add x) false
  | approximate s _ => approximate (s.add x) false

def add (t : Total) (c : Cell) : Total :=
  match numericOf c with
  | .integer n => t.addInt n
  | .real x => t.addReal x
  | _ => t

/-- The total of some cells. -/
def of (cells : List Cell) : Total :=
  cells.foldl add (whole 0)

end Total

def Cell.isPresent : Cell → Bool
  | .null => false
  | _ => true

/-- The cells without those that a later one equals. -/
def distinct : List Cell → List Cell
  | [] => []
  | c :: cs => if cs.any c.same then distinct cs else c :: distinct cs

namespace Aggregate

/-- The sum of cells that have values. -/
def sumOf (present : List Cell) : Except Fault Cell :=
  if present.isEmpty then .ok .null
  else
    match Total.of present with
    | .whole n => .ok (.integer n)
    | .approximate s overflowed =>
      if overflowed then .error (.noValue .integerOverflow) else .ok (Cell.ofFloat s.value)

/-- The average of cells that have values. -/
def averageOf (present : List Cell) : Cell :=
  if present.isEmpty then .null
  else
    let count := Float.ofNat present.length
    match Total.of present with
    | .whole n => Cell.ofFloat (Float.ofInt n / count)
    | .approximate s _ => Cell.ofFloat (s.value / count)

/-- What a group of cells sums up to. -/
def apply (a : Aggregate) (cells : List Cell) : Except Fault Cell :=
  let present := cells.filter Cell.isPresent
  match a with
  | .sum => sumOf present
  | .average => .ok (averageOf present)
  | .count => .ok (.integer present.length)
  | .countDistinct => .ok (.integer (distinct present).length)

end Aggregate

/-! ## Laws -/

theorem Total.add_null (t : Total) : t.add .null = t := rfl

/-- Whole numbers add up exactly as long as every partial sum fits. -/
theorem Total.foldl_whole (ns : List Int) (m : Int)
    (h : ∀ k, k ≤ ns.length → Fits64 ((ns.take k).foldl (· + ·) m)) :
    (ns.map Cell.integer).foldl Total.add (.whole m) = .whole (ns.foldl (· + ·) m) := by
  induction ns generalizing m with
  | nil => rfl
  | cons n ns ih =>
    have h1 : Fits64 (m + n) := by simpa using h 1 (by simp)
    have hstep : Total.add (.whole m) (.integer n) = .whole (m + n) := by
      simp [Total.add, numericOf, Total.addInt, h1]
    have hrest : ∀ k, k ≤ ns.length → Fits64 ((ns.take k).foldl (· + ·) (m + n)) := by
      intro k hk
      simpa using h (k + 1) (by simpa using hk)
    rw [List.map_cons, List.foldl_cons, hstep, ih (m + n) hrest]
    rfl

end SalesLedger.Sql
