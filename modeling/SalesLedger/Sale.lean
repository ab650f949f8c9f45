import SalesLedger.Calendar.DateText
import SalesLedger.Decimal.Signed64
import SalesLedger.Json.Mismatch
import SalesLedger.Sql.Cell

/-!
# Sales

A sale as it is recorded: what was sold, at what price, what is left, how much was sold, and when.
The two counts fit 64 bits with a sign. A sale is read from a JSON object with five fields, or from
a list of the five in their order.

Main statements: `values_keys`, a sale has a value for every column of a ledger.
-/

namespace SalesLedger

/-- A recorded sale. -/
structure Sale where
  item : String
  price : Float
  inStock : Int
  sold : Int
  date : Calendar.Date
  inStock_fits : Fits64 inStock
  sold_fits : Fits64 sold
  deriving DecidableEq

namespace Sale

/-- The columns of a ledger, in the order of their declaration. -/
def columns : List String :=
  ["item", "price", "quantity_in_stock", "quantity_sold", "sale_date"]

/-- A sale with counts of 64 bits. -/
def ofCounts (item : String) (price : Float) (inStock sold : { n : Int // Fits64 n })
    (date : Calendar.Date) : Sale :=
  ⟨item, price, inStock.1, sold.1, date, inStock.2, sold.2⟩

/-- The values of a sale under the columns of a ledger. What is no number is no price. -/
def values (s : Sale) : List (String × Sql.Cell) :=
  [("item", .text s.item), ("price", Sql.Cell.ofFloat s.price),
    ("quantity_in_stock", .integer s.inStock), ("quantity_sold", .integer s.sold),
    ("sale_date", .text s.date.text)]

def toJson (s : Sale) : Json :=
  Json.ofFields [("item", .text s.item), ("price", Json.ofFloat s.price),
    ("quantity_in_stock", .integer s.inStock), ("quantity_sold", .integer s.sold),
    ("sale_date", .text s.date.text)]

/-! ## Reading -/

open Json

def readText : Json → Except Mismatch String
  | .text s => .ok s
  | v => .error (.wrongType v "a string")

/-- A number as a double. -/
def readPrice : Json → Except Mismatch Float
  | .integer n => .ok (Float.ofInt n)
  | .real x => .ok x
  | v => .error (.wrongType v "f64")

/-- A whole number of 64 bits with a sign. -/
def readCount : Json → Except Mismatch { n : Int // Fits64 n }
  | .integer n =>
    if h : Fits64 n then .ok ⟨n, h⟩
    else .error (.wrongValue (describe (.integer n)) "i64")
  | v => .error (.wrongType v "i64")

def readDate : Json → Except Mismatch Calendar.Date
  | .text s =>
    match Calendar.Date.readLoose s with
    | .ok d => .ok d
    | .error f => .error (.custom f.message)
  | v => .error (.wrongType v "a formatted date string")

/-- What a message calls a list of the five fields. -/
def expectedList : String := "struct SaleRecord with 5 elements"

/-- The value of a field that may be missing: it is read only where it is present. -/
def present {α : Type} (read : Json → Except Mismatch α) : Option Json → Except Mismatch (Option α)
  | some v => do pure (some (← read v))
  | none => pure none

/-- The value of a field that has to be present. -/
def required {α : Type} (name : String) : Option α → Except Mismatch α
  | some a => .ok a
  | none => .error (.missingField name)

/-- A sale from the fields of an object. Fields that are present are read first; then the first
that is missing is named. -/
def ofFields (fields : Fields) : Except Mismatch Sale := do
  let item ← present readText (fields.get? "item")
  let price ← present readPrice (fields.get? "price")
  let inStock ← present readCount (fields.get? "quantity_in_stock")
  let sold ← present readCount (fields.get? "quantity_sold")
  let date ← present readDate (fields.get? "sale_date")
  let item ← required "item" item
  let price ← required "price" price
  let inStock ← required "quantity_in_stock" inStock
  let sold ← required "quantity_sold" sold
  let date ← required "sale_date" date
  pure (ofCounts item price inStock sold date)

/-- A sale from the five fields in their order. -/
def ofItems (items : List Json) : Except Mismatch Sale := do
  let field {α : Type} (i : Nat) (read : Json → Except Mismatch α) : Except Mismatch α :=
    match items[i]? with
    | some v => read v
    | none => .error (.wrongLength i expectedList)
  let item ← field 0 readText
  let price ← field 1 readPrice
  let inStock ← field 2 readCount
  let sold ← field 3 readCount
  let date ← field 4 readDate
  if 5 < items.length then throw (.wrongLength items.length "fewer elements in array")
  pure (ofCounts item price inStock sold date)

def ofJson : Json → Except Mismatch Sale
  | .object fields => ofFields fields
  | .array items => ofItems items
  | v => .error (.wrongType v "struct SaleRecord")

/-! ## Laws -/

theorem values_keys (s : Sale) : s.values.map (·.1) = columns := rfl

end Sale

end SalesLedger
