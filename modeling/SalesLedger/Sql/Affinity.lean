import SalesLedger.Decimal.Significant
import SalesLedger.Text.Case
import SalesLedger.Sql.Cell
import SalesLedger.Sql.Numeral

/-!
# Column types

A column's declared type gives it an affinity: what its cells are turned into when they are stored,
and what the other side of a comparison is turned into. A value that cannot be turned stays as it
is.

Main statements: `store_null` and `store_blob`, nothing and bytes are stored as they are, and
`oneZero_idem`, a stored double is stored as it is.
-/

namespace SalesLedger.Sql

/-- What the cells of a column are turned into. -/
inductive Affinity where
  | blob
  | text
  | numeric
  | integer
  | real
  deriving Repr, DecidableEq

namespace Affinity

/-- Whether a list of characters holds another as a run. -/
def holds (part : List Char) : List Char → Bool
  | [] => part.isEmpty
  | c :: cs => part.isPrefixOf (c :: cs) || holds part cs

def ofDeclared (type : String) : Affinity :=
  let cs := (Text.lowerAscii type).toList
  let names (word : String) : Bool := holds word.toList cs
  if cs.isEmpty then .blob
  else if names "int" then .integer
  else if names "char" || names "clob" || names "text" then .text
  else if names "blob" then .blob
  else if names "real" || names "floa" || names "doub" then .real
  else .numeric

def isNumeric : Affinity → Bool
  | .numeric | .integer | .real => true
  | _ => false

def textOf : Cell → Cell
  | .integer n => .text (toString n)
  | .real x => .text (Decimal.Significant.text x)
  | c => c

/-- The number that a text is, if it is one. A text of digits alone is whole where 64 bits
allow. -/
def numberOf : Cell → Cell
  | .text s =>
    let reading := Numeral.read s.toList
    if reading.wellFormed then
      match reading.digitsOnly, Numeral.whole? s.toList with
      | true, some (n, true) => .integer n
      | _, _ => .real reading.value
    else .text s
  | c => c

/-- A double as a whole number, where it is one strictly within 64 bits with a sign. -/
def wholeOf : Cell → Cell
  | .real x =>
    match Decimal.Binary64.exactInt? x with
    | some n => if -0x8000000000000000 < n ∧ n < 0x7fffffffffffffff then .integer n else .real x
    | none => .real x
  | c => c

/-- A whole number as a double. -/
def doubleOf : Cell → Cell
  | .integer n => .real (Float.ofInt n)
  | c => c

/-- A double as it comes back: whole ones are kept as whole numbers, which have one zero. -/
def oneZero : Cell → Cell
  | .real x => if Decimal.Binary64.units x = 0 then .real 0 else .real x
  | c => c

/-- What a cell becomes when a column of this affinity stores it. -/
def store : Affinity → Cell → Cell
  | .blob, c => c
  | .text, c => textOf c
  | .real, c => oneZero (doubleOf (numberOf c))
  | _, c => wholeOf (numberOf c)

/-- The two sides of a comparison with a column of this affinity. -/
def sides (affinity : Affinity) (a b : Cell) : Cell × Cell :=
  match affinity with
  | .blob => (a, b)
  | .text =>
    match a, b with
    | .text _, _ | .malformed _, _ => (a, textOf b)
    | _, .text _ | _, .malformed _ => (textOf a, b)
    | _, _ => (a, b)
  | _ => (numberOf a, numberOf b)

/-! ## Laws -/

theorem store_null (a : Affinity) : a.store .null = .null := by
  cases a <;> rfl

theorem store_text_text (s : String) : store .text (.text s) = .text s := rfl

theorem oneZero_idem (c : Cell) : oneZero (oneZero c) = oneZero c := by
  cases c with
  | real x =>
    have hzero : Decimal.Binary64.units 0 = 0 := by decide +kernel
    by_cases hx : Decimal.Binary64.units x = 0
    · simp only [oneZero, hx, if_true, hzero]
    · simp only [oneZero, hx, if_false]
  | _ => rfl

theorem store_oneZero (x : Float) :
    store .real (store .real (.real x)) = oneZero (.real x) := by
  have hzero : Decimal.Binary64.units 0 = 0 := by decide +kernel
  show oneZero (doubleOf (numberOf (oneZero (.real x)))) = oneZero (.real x)
  by_cases hx : Decimal.Binary64.units x = 0
  · have hsame : oneZero (.real x) = .real 0 := if_pos hx
    rw [hsame]
    show oneZero (.real 0) = .real 0
    rw [oneZero, if_pos hzero]
  · have hsame : oneZero (.real x) = .real x := if_neg hx
    rw [hsame]
    exact hsame

theorem store_blob (a : Affinity) (bytes : List UInt8) : a.store (.blob bytes) = .blob bytes := by
  cases a <;> rfl

end Affinity

end SalesLedger.Sql
