import SalesLedger.Sql.Builtin.Document
import SalesLedger.Sql.Builtin.Number
import SalesLedger.Sql.Builtin.Time

/-!
# Functions

The functions that expressions may call, by their names in lower case. A function may see how its
arguments compare, where it is called from, and what the connection did before.

Main statement: `call_text`, a function of texts is what it is called by its name.
-/

namespace SalesLedger.Sql

/-- What a connection knows of what it did. -/
structure Session where
  /-- The number of the last row. -/
  lastRow : Int := 0
  /-- How many rows the last statement changed, and how many were changed by all. -/
  changed : Int := 0
  total : Int := 0
  deriving DecidableEq

/-- What an expression is for. -/
inductive Purpose where
  /-- The value of a column that none is given for. -/
  | fallback
  | check
  /-- The value of a column that is worked out by others. -/
  | computed
  deriving Repr, DecidableEq

/-- The place of an expression in which nothing may depend on the clock. -/
def Purpose.steadyPlace? : Purpose → Option String
  | fallback => none
  | check => some "a CHECK constraint"
  | computed => some "a generated column"

namespace Builtin

/-- The functions that only other statements may call, by their names here and in messages. -/
def reserved : List (String × String) :=
  [("match", "MATCH"), ("snippet", "snippet"), ("offsets", "offsets"), ("matchinfo", "matchinfo"),
    ("optimize", "optimize")]

/-- What the engine and the connection say of themselves. Chance has one face here. -/
def engine? (session : Session) (name : String) (args : List Value) : Option Answer :=
  match name, args with
  | "last_insert_rowid", [] => some (.ok (.integer session.lastRow))
  | "changes", [] => some (.ok (.integer session.changed))
  | "total_changes", [] => some (.ok (.integer session.total))
  | "random", [] => some (.ok (.integer 4961350391247034617))
  | "randomblob", [v] => some (zeros (.integer (max 1 (wholeOf v.cell))))
  | "subtype", [v] => some (.ok (.integer (if v.isDocument then 74 else 0)))
  | "sqlite_log", [_, _] => some (.ok .null)
  | "sqlite_version", [] => some (.ok (.text "3.45.0"))
  | "sqlite_source_id", [] =>
    some (.ok (.text ("2024-01-15 17:01:13 " ++
      "1066602b2b1976fe58b5150777cced894af17c803e068f5918390d6915b46e1d")))
  | _, _ => none

/-- The value of a function for arguments. -/
def call (purpose : Purpose) (session : Session) (collation : Collation) (name : String)
    (args : List Value) : Answer :=
  match (text? name args).or ((number? collation name args).or
    ((time? purpose.steadyPlace? name args).or ((document? name args).or
      (engine? session name args)))) with
  | some answer => answer
  | none =>
    match reserved.lookup name with
    | some shown => .error (.unusableFunction shown)
    | none => .error (.unknownFunction name)

/-! ## Laws -/

theorem call_text {name : String} {args : List Value} {answer : Answer} (purpose : Purpose)
    (session : Session) (collation : Collation) (h : text? name args = some answer) :
    call purpose session collation name args = answer := by
  rw [call, h, Option.some_or]

end Builtin

end SalesLedger.Sql
