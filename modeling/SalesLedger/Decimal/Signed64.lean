/-!
# Whole numbers of 64 bits

The whole numbers that 64 bits with a sign hold.
-/

namespace SalesLedger

/-- Whether a whole number fits 64 bits with a sign. -/
def Fits64 (n : Int) : Prop := -0x8000000000000000 ≤ n ∧ n < 0x8000000000000000

instance (n : Int) : Decidable (Fits64 n) := inferInstanceAs (Decidable (_ ∧ _))

end SalesLedger
