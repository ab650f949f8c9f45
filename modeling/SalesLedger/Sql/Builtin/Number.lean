import SalesLedger.Sql.Builtin.Text

/-!
# Functions of numbers

The functions that expressions know of numbers, and those that choose between values. Rounding to
no places adds a half and cuts; rounding to more goes through the digits of the number, so that the
answer is the double that these digits read as.

Main statements: `best_nil`, one value alone is the best, and `nullif_self`, a value is nothing when
compared with itself.
-/

namespace SalesLedger.Sql.Builtin

/-! ## Sizes -/

/-- A number without its sign. What is no whole number counts as a double. -/
def abs (c : Cell) : Answer :=
  match c with
  | .null => .ok .null
  | .integer n =>
    if n = -0x8000000000000000 then .error .integerOverflow else .ok (.integer n.natAbs)
  | _ =>
    let x := floatOf c
    .ok (.ofCell (.real (if x < 0 then -x else x)))

/-- The sign of a number, or of a text that is one. -/
def sign (c : Cell) : Value :=
  match Affinity.numberOf c with
  | .integer n => .integer n.sign
  | .real x => .integer (if x < 0 then -1 else if x > 0 then 1 else 0)
  | _ => .null

/-- A double rounded to places behind the point. From 2^52 on there is nothing to round. -/
def roundTo (places : Nat) (x : Float) : Float :=
  if x < -4503599627370496 || x > 4503599627370496 then x
  else if places = 0 then Float.ofInt (Moment.truncate (x + if x < 0 then -0.5 else 0.5))
  else
    (Numeral.read (Format.double { isFull := true, precision? := some places } .positional x)).value

/-- A number rounded, to no places where none are given. -/
def round (c : Cell) (places : Cell) : Value :=
  if c = .null ∨ places = .null then .null
  else
    let n := Format.narrow (wholeOf places)
    .ofCell (.ofFloat (roundTo (min n.toNat 30) (floatOf c)))

/-! ## Choices -/

/-- The best of values, by a test whether another one is better. -/
def best (better : Cell → Cell → Bool) (v : Value) (others : List Value) : Value :=
  others.foldl (fun v w => if better v.cell w.cell then w else v) v

/-- The least of values; of equal ones the last. -/
def least (collation : Collation) (vs : List Value) : Value :=
  match vs with
  | v :: rest =>
    if vs.any Value.isNull then .null
    else best (fun a b => (collation.cell b).le (collation.cell a)) v rest
  | [] => .null

/-- The greatest of values; of equal ones the first. -/
def greatest (collation : Collation) (vs : List Value) : Value :=
  match vs with
  | v :: rest =>
    if vs.any Value.isNull then .null
    else best (fun a b => !(collation.cell b).le (collation.cell a)) v rest
  | [] => .null

/-- A value, or nothing where it is equal to another. -/
def nullif (collation : Collation) (v w : Value) : Value :=
  if (collation.cell v.cell).same (collation.cell w.cell) then .null else v

/-! ## Names -/

/-- The function of numbers with a name, for arguments of its number. Where it compares, it does so
by a collation. -/
def number? (collation : Collation) (name : String) (args : List Value) : Option Answer :=
  match name, args with
  | "abs", [v] => some (abs v.cell)
  | "sign", [v] => some (.ok (sign v.cell))
  | "round", [v] => some (.ok (round v.cell (.integer 0)))
  | "round", [v, n] => some (.ok (round v.cell n.cell))
  | "typeof", [v] => some (.ok (.text v.cell.kind))
  | "nullif", [v, w] => some (.ok (nullif collation v w))
  | "min", v :: w :: rest => some (.ok (least collation (v :: w :: rest)))
  | "max", v :: w :: rest => some (.ok (greatest collation (v :: w :: rest)))
  | _, _ => none

/-! ## Laws -/

theorem best_nil (better : Cell → Cell → Bool) (v : Value) : best better v [] = v := rfl

theorem nullif_self (collation : Collation) (v : Value) : nullif collation v v = .null := by
  simp [nullif, Cell.same]

theorem sign_null : sign .null = .null := rfl

end SalesLedger.Sql.Builtin
