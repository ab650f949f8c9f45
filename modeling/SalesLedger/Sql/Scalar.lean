import SalesLedger.Sql.Affinity
import SalesLedger.Sql.CellText
import SalesLedger.Sql.Collation
import SalesLedger.Sql.Moment.Basic

/-!
# Operators

What operators make of cells. A cell without a value makes most results one without a value; where
a number is wanted, a text counts as the number that it begins with.

Main statements: `arithmetic_null` and `compare_null`, nothing comes of nothing,
`truth?_ofTruth`, the cell of a truth has that truth, and `shifted_zero`, moving by no bits changes
nothing.
-/

namespace SalesLedger.Sql

/-! ## Numbers -/

/-- What a cell counts as in a calculation: a text by the number it begins with, whole where the
text shows no point or exponent. -/
def factorOf (c : Cell) : Cell :=
  match c.spelled? with
  | some s => ofText s
  | none => c
where
  /-- The number at the start of a text. -/
  ofText (s : String) : Cell :=
    let reading := Numeral.read s.toList
    match Numeral.whole? s.toList with
    | some (n, alone) =>
      if reading.wellFormed then
        if reading.digitsOnly && alone then .integer n else .real reading.value
      else if reading.decimalStart then .real reading.value
      else if Fits64 n then .integer n
      else .real reading.value
    | none =>
      if reading.wellFormed || reading.decimalStart then .real reading.value else .integer 0

def floatOf : Cell → Float
  | .integer n => Float.ofInt n
  | .real x => x
  | c => ((c.spelled?).map fun s => (Numeral.read s.toList).value).getD 0

/-- A double as a whole number of 64 bits, cut towards zero and at the ends. -/
def wholeOfFloat (x : Float) : Int :=
  if x ≤ -9223372036854775808.0 then -0x8000000000000000
  else if x ≥ 9223372036854775808.0 then 0x7fffffffffffffff
  else Moment.truncate x

/-- A cell as a whole number of 64 bits: a text counts as the digits that it begins with. -/
def wholeOf : Cell → Int
  | .integer n => n
  | .real x => wholeOfFloat x
  | c => ((c.spelled?).map ofText).getD 0
where
  /-- The whole number at the start of a text, cut at the ends of 64 bits. -/
  ofText (s : String) : Int :=
    match Numeral.whole? s.toList with
    | some (n, _) => max (-0x8000000000000000) (min n 0x7fffffffffffffff)
    | none => 0

/-- A calculation with two numbers. -/
inductive Arithmetic where
  | plus
  | minus
  | times
  | quotient
  | remainder
  deriving Repr, DecidableEq

namespace Arithmetic

/-- What a calculation makes of whole numbers, where that is a whole number again. -/
def ofWhole? (op : Arithmetic) (m n : Int) : Option Int :=
  let r :=
    match op with
    | plus => m + n
    | minus => m - n
    | times => m * n
    | quotient => m.tdiv n
    | remainder => m.tmod n
  if Fits64 r then some r else none

/-- What a calculation makes of doubles. Those that it has no answer for give no number. -/
def ofFloats (op : Arithmetic) (a b : Cell) : Cell :=
  let x := floatOf a
  let y := floatOf b
  match op with
  | plus => Cell.ofFloat (x + y)
  | minus => Cell.ofFloat (x - y)
  | times => Cell.ofFloat (x * y)
  | quotient => if y == 0 then .null else Cell.ofFloat (x / y)
  | remainder =>
    let n := wholeOf b
    if n = 0 then .null else Cell.ofFloat (Float.ofInt ((wholeOf a).tmod n))

def divides : Arithmetic → Bool
  | quotient | remainder => true
  | _ => false

/-- What a calculation makes of two cells: whole while it fits 64 bits, otherwise a double. -/
def apply (op : Arithmetic) (a b : Cell) : Cell :=
  if a = .null ∨ b = .null then .null
  else
    match factorOf a, factorOf b with
    | .integer m, .integer n =>
      if op.divides && n = 0 then .null
      else
        match op.ofWhole? m n with
        | some r => .integer r
        | none => op.ofFloats a b
    | _, _ => op.ofFloats a b

end Arithmetic

/-- The product of two cells. -/
def multiply (a b : Cell) : Cell :=
  Arithmetic.times.apply a b

/-! ## Bits -/

/-- A calculation with the 64 bits of two whole numbers. -/
inductive BitOperation where
  | both
  | either
  | left
  | right
  deriving Repr, DecidableEq

namespace BitOperation

/-- A whole number moved by so many bits; below zero, in the other direction. The sign fills up what
is moved to the right. -/
def shifted (n : Int) (bits : Int) : Int :=
  if 64 ≤ bits then 0
  else if 0 ≤ bits then (n * ((1 : Int) <<< bits.toNat)).bmod 0x10000000000000000
  else if bits ≤ -64 then if n < 0 then -1 else 0
  else n.fdiv ((1 : Int) <<< (-bits).toNat)

/-- What a calculation makes of two whole numbers. -/
def ofWhole : BitOperation → Int → Int → Int
  | both, m, n => (Int64.ofInt m &&& Int64.ofInt n).toInt
  | either, m, n => (Int64.ofInt m ||| Int64.ofInt n).toInt
  | left, m, n => shifted m n
  | right, m, n => shifted m (-n)

/-- What a calculation makes of two cells. -/
def apply (op : BitOperation) (a b : Cell) : Cell :=
  if a = .null ∨ b = .null then .null else .integer (op.ofWhole (wholeOf a) (wholeOf b))

end BitOperation

/-- A cell with all bits of its whole number turned around. -/
def inverted (c : Cell) : Cell :=
  if c = .null then .null else .integer (-wholeOf c - 1)

/-! ## Truth -/

/-- The truth of a cell: a number is true unless it is zero, and nothing is neither. -/
def truth? : Cell → Option Bool
  | .null => none
  | .integer n => some (n ≠ 0)
  | c => some (floatOf c != 0)

def ofTruth : Option Bool → Cell
  | none => .null
  | some b => .integer (if b then 1 else 0)

/-- Whether both hold; what is unknown decides only where the other does not. -/
def bothHold (a b : Option Bool) : Option Bool :=
  if a = some false ∨ b = some false then some false
  else if a = none ∨ b = none then none
  else some true

def oneHolds (a b : Option Bool) : Option Bool :=
  (bothHold (a.map not) (b.map not)).map not

/-- A comparison of two values. -/
inductive Comparison where
  | equal
  | different
  | less
  | atMost
  | greater
  | atLeast
  deriving Repr, DecidableEq

/-- Whether a comparison holds in the order of cells. -/
def Comparison.holds : Comparison → Cell → Cell → Bool
  | equal, a, b => a.same b
  | different, a, b => !a.same b
  | less, a, b => !b.le a
  | atMost, a, b => a.le b
  | greater, a, b => !a.le b
  | atLeast, a, b => b.le a

/-- The affinity of a comparison between two sides, of which either may have one of its own. -/
def Affinity.between : Option Affinity → Option Affinity → Affinity
  | some a, some b => if a.isNumeric || b.isNumeric then .numeric else .blob
  | some a, none => a
  | none, some b => b
  | none, none => .blob

/-- Whether a comparison holds between two cells, turned by an affinity and folded by a
collation. It is unknown where one of them has no value. -/
def compare (affinity : Affinity) (collation : Collation) (op : Comparison) (a b : Cell) :
    Option Bool :=
  if a = .null ∨ b = .null then none
  else
    let (a, b) := affinity.sides a b
    some (op.holds (collation.cell a) (collation.cell b))

/-! ## Texts -/

/-- The bytes of two cells, one after the other. -/
def concat (a b : Cell) : Cell :=
  match a.bytes?, b.bytes? with
  | some s, some t => Cell.ofBytes (s ++ t)
  | _, _ => .null

/-! ## Casts -/

/-- The number that a cell begins with. A double of at most 51 bits is turned into a whole number
where it is one. -/
def numberOf (c : Cell) : Cell :=
  match factorOf c with
  | .real x =>
    if -2251799813685248.0 ≤ x ∧ x < 2251799813685248.0 then Affinity.wholeOf (.real x)
    else .real x
  | n => n

/-- A cell turned into a type, by force. -/
def cast (affinity : Affinity) (c : Cell) : Cell :=
  if c = .null then .null
  else
    match affinity with
    | .text => ((c.bytes?).map Cell.ofBytes).getD .null
    | .blob => ((c.bytes?).map Cell.blob).getD .null
    | .integer => .integer (wholeOf c)
    | .real => .real (floatOf c)
    | .numeric => if c.spelled?.isSome then numberOf c else c

/-! ## Laws -/

theorem arithmetic_null (op : Arithmetic) (a : Cell) :
    op.apply .null a = .null ∧ op.apply a .null = .null := by
  simp [Arithmetic.apply]

theorem compare_null (affinity : Affinity) (collation : Collation) (op : Comparison) (a : Cell) :
    compare affinity collation op .null a = none ∧
      compare affinity collation op a .null = none := by
  simp [compare]

theorem shifted_zero (n : Int) (h : Fits64 n) : BitOperation.shifted n 0 = n := by
  obtain ⟨h1, h2⟩ := h
  have hs : (1 : Int) <<< (0 : Nat) = 1 := rfl
  simp only [BitOperation.shifted, Int.toNat_zero, hs, Int.mul_one]
  rw [if_neg (by omega), if_pos (by omega)]
  exact Int.bmod_eq_of_le (by omega) (by omega)

theorem truth?_ofTruth (t : Option Bool) : truth? (ofTruth t) = t := by
  rcases t with _ | _ | _ <;> rfl

theorem bothHold_comm (a b : Option Bool) : bothHold a b = bothHold b a := by
  rcases a with _ | _ | _ <;> rcases b with _ | _ | _ <;> rfl

end SalesLedger.Sql
