import SalesLedger.Sale
import SalesLedger.Sql.Table
import SalesLedger.Tenant

/-!
# Ledgers

The two tables that sales are written to. Every tenant has a ledger of its own sales; the master
ledger holds the sales of all tenants, each with the tenant's number and numbered from one on.

Main statements: `columns_emptyLedger`, a new ledger has the five columns of a sale.
-/

namespace SalesLedger.Ledger

open Sql

/-- The name of the table in a tenant's ledger. -/
def table : String := "sales"

/-- The name of the table in the master ledger. -/
def masterTable : String := "sales_data"

def saleColumns : List Column :=
  [{ name := "item", type := "TEXT", affinity := .text, width := 5 },
    { name := "price", type := "REAL", affinity := .real },
    { name := "quantity_in_stock", type := "INTEGER", affinity := .integer },
    { name := "quantity_sold", type := "INTEGER", affinity := .integer },
    { name := "sale_date", type := "TEXT", affinity := .text, width := 5 }]

/-- The columns of a sale in the master ledger. -/
def masterColumns : List Column :=
  { name := "id", type := "INTEGER", affinity := .integer } ::
    { name := "phone_number", type := "TEXT", affinity := .text, width := 5 } :: saleColumns

/-- A tenant's ledger without sales. -/
def emptyLedger : Table :=
  Table.create table { columns := saleColumns }

/-- The master ledger without sales. -/
def emptyMaster : Table :=
  Table.create masterTable
    { columns := masterColumns, numbering? := some { place := 0, isCounter := true } }

/-- The values of a tenant's sale in the master ledger. -/
def masterValues (t : Tenant) (s : Sale) : List (String × Cell) :=
  ("phone_number", .text t.id) :: s.values

/-! ## Laws -/

theorem columns_emptyLedger : emptyLedger.columns.map Column.name = Sale.columns := rfl

theorem rows_emptyLedger : emptyLedger.rows = [] := rfl

theorem rows_emptyMaster : emptyMaster.rows = [] := rfl

end SalesLedger.Ledger
