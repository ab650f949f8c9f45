import SalesLedger.Sql.CellText

/-!
# Values

What an expression is worth: a cell, and whether its text is known to be a document. A cell that is
stored no longer remembers this.
-/

namespace SalesLedger.Sql

/-- The value of an expression. -/
structure Value where
  cell : Cell
  /-- Whether the text is that of a document. -/
  isDocument : Bool := false
  deriving DecidableEq

namespace Value

def null : Value := ⟨.null, false⟩

def ofCell (c : Cell) : Value := ⟨c, false⟩

/-- A whole number. -/
def integer (n : Int) : Value := ⟨.integer n, false⟩

def text (s : String) : Value := ⟨.text s, false⟩

def ofBytes (bytes : List UInt8) : Value := ⟨Cell.ofBytes bytes, false⟩

def isNull (v : Value) : Bool := v.cell = .null

end Value

end SalesLedger.Sql
