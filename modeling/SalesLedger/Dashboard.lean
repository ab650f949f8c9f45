import SalesLedger.Service

/-!
# Dashboards

Fixed views of one tenant's ledger: a summary, the sales of the last seven months, the stock of the
best stocked items, and the latest sales. What cannot be read counts as nothing.

Main statements: `summary_of_missing`, a tenant without a ledger has the empty summary.
-/

namespace SalesLedger.Dashboard

open Storage Query Sql

/-- The greatest stock that is low. -/
def lowStock : Int := 5

/-- How many months, items and sales the views show. -/
def trendMonths : Nat := 7
def inventorySlices : Nat := 5
def recentRows : Nat := 10

/-- What a month's sales are meant to be, as a multiple of what they are. -/
def targetFactor : Float := 1.1

def stockColumn : String := "quantity_in_stock"

def itemColumn : String := "item"

/-- A summary of a ledger. -/
structure Summary where
  totalSales : Float
  /-- The number of different dates of sales. -/
  totalOrders : Int
  inventoryValue : Float
  lowStockItems : Int
  customerGrowth : Float
  topSelling : String
  deriving DecidableEq

def Summary.empty : Summary := ⟨0, 0, 0, 0, 0, "N/A"⟩

/-- The sales of a month. -/
structure TrendPoint where
  name : String
  sales : Float
  target : Float
  deriving DecidableEq

/-- The stock of an item. -/
structure InventorySlice where
  name : String
  value : Float
  deriving DecidableEq

/-! ## Queries -/

def priceTimes (quantity : String) : Term :=
  .product (.column priceColumn) (.column quantity)

/-- The four totals of a summary. -/
def totalsQuery : Select where
  outputs := some [
    ⟨.aggregateOrZero .sum (priceTimes soldColumn), some "total_sales"⟩,
    ⟨.aggregate .countDistinct (.column dateColumn), some "total_orders"⟩,
    ⟨.aggregateOrZero .sum (priceTimes stockColumn), some "inventory_value"⟩,
    ⟨.aggregate .countDistinct
      (.whenAtMost stockColumn (.integer lowStock) (.column itemColumn)),
      some "low_stock_items"⟩]
  table := Ledger.table
  conditions := []
  groupBy := none
  orderBy := none
  limit := none

/-- The item with the greatest revenue. -/
def topQuery : Select where
  outputs := some [⟨.plain (.column itemColumn), none⟩,
    ⟨.aggregate .sum (priceTimes soldColumn), some "total_item_sales"⟩]
  table := Ledger.table
  conditions := []
  groupBy := some itemColumn
  orderBy := some ("total_item_sales", .descending)
  limit := some 1

/-- The revenue of each month from a day on. -/
def trendQuery (start : Calendar.Date) : Select where
  outputs := some [⟨.plain (.monthOf dateColumn), some "month"⟩,
    ⟨.aggregate .sum (priceTimes soldColumn), some "total_sales"⟩]
  table := Ledger.table
  conditions := [.atLeast dateColumn (.text start.text)]
  groupBy := some "month"
  orderBy := some ("month", .ascending)
  limit := none

/-- The items with the greatest stock. -/
def inventoryQuery : Select where
  outputs := some [⟨.plain (.column itemColumn), none⟩,
    ⟨.aggregate .sum (.column stockColumn), some "total_stock"⟩]
  table := Ledger.table
  conditions := []
  groupBy := some itemColumn
  orderBy := some ("total_stock", .descending)
  limit := some inventorySlices

/-- The latest sales. -/
def recentQuery : Select where
  outputs := some (Sale.columns.map fun c => ⟨.plain (.column c), none⟩)
  table := Ledger.table
  conditions := []
  groupBy := none
  orderBy := some (dateColumn, .descending)
  limit := some recentRows

/-! ## Views -/

/-- A number of a row as a double; zero, where there is none. -/
def number (row : Json.Fields) (key : String) : Float :=
  ((row.get? key).bind Json.float?).getD 0

/-- A whole number of a row; zero, where there is none. -/
def whole (row : Json.Fields) (key : String) : Int :=
  ((row.get? key).bind Json.integer?).getD 0

def text? (row : Json.Fields) (key : String) : Option String :=
  (row.get? key).bind Json.text?

variable (config : Config) (disk : Disk) (tenant : Tenant)

/-- The summary of a tenant's ledger. -/
def summary : Summary :=
  if Store.ledgerExists config disk tenant then
    let top := ((Store.rows config disk tenant topQuery).head?.bind fun row =>
      text? row itemColumn).getD Summary.empty.topSelling
    match Store.rows config disk tenant totalsQuery with
    | row :: _ =>
      { totalSales := number row "total_sales"
        totalOrders := whole row "total_orders"
        inventoryValue := number row "inventory_value"
        lowStockItems := whole row "low_stock_items"
        customerGrowth := 0
        topSelling := top }
    | [] => { Summary.empty with topSelling := top }
  else Summary.empty

/-- The first days of the months up to a day's month, oldest first, as far as the calendar
reaches. -/
def trailingMonths (today : Calendar.Date) (count : Nat) : List Calendar.Date :=
  (List.range count).reverse.filterMap fun (back : Nat) =>
    Calendar.Date.firstOf? (today.monthIndex - back)

/-- The revenue of a month among the rows of a trend; of rows with one month the last counts. -/
def monthRevenue (rows : List Json.Fields) (month : String) : Float :=
  match rows.reverse.find? fun row => text? row "month" = some month with
  | some row => number row "total_sales"
  | none => 0

/-- The sales of the months up to a day's month, oldest first. -/
def trend (today : Calendar.Date) : List TrendPoint :=
  match trailingMonths today trendMonths with
  | [] => []
  | start :: rest =>
    if Store.ledgerExists config disk tenant then
      let rows := Store.rows config disk tenant (trendQuery start)
      (start :: rest).map fun month =>
        let sales := monthRevenue rows month.monthText
        ⟨Calendar.monthName month.month, sales, sales * targetFactor⟩
    else []

/-- The stock of the best stocked items. -/
def inventory : List InventorySlice :=
  if Store.ledgerExists config disk tenant then
    (Store.rows config disk tenant inventoryQuery).map fun row =>
      ⟨(text? row itemColumn).getD "", number row "total_stock"⟩
  else []

/-- The latest sales. -/
def recent : List Json.Fields :=
  if Store.ledgerExists config disk tenant then
    Presentation.normalizeDates (Store.rows config disk tenant recentQuery)
  else []

/-! ## As JSON -/

def Summary.toJson (s : Summary) : Json :=
  Json.ofFields [("totalSales", Json.ofFloat s.totalSales), ("totalOrders", .integer s.totalOrders),
    ("inventoryValue", Json.ofFloat s.inventoryValue),
    ("lowStockItems", .integer s.lowStockItems),
    ("customerGrowth", Json.ofFloat s.customerGrowth), ("topSelling", .text s.topSelling)]

/-- A month's sales as JSON. -/
def TrendPoint.toJson (p : TrendPoint) : Json :=
  Json.ofFields [("name", .text p.name), ("sales", Json.ofFloat p.sales),
    ("target", Json.ofFloat p.target)]

/-- An item's stock as JSON. -/
def InventorySlice.toJson (s : InventorySlice) : Json :=
  Json.ofFields [("name", .text s.name), ("value", Json.ofFloat s.value)]

/-! ## Laws -/

theorem summary_of_missing (h : Store.ledgerExists config disk tenant = false) :
    summary config disk tenant = Summary.empty := by
  simp [summary, h]

end SalesLedger.Dashboard
