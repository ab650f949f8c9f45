import SalesLedger.Decimal.Significant
import SalesLedger.Sql.Cell

/-!
# Cells as text

The bytes that a cell spells as a text, and the text of bytes. A number spells its decimal; bytes
spell themselves, whether they are well-formed or not.

Main statement: `bytes?_ofBytes`, the text of bytes spells those bytes.
-/

namespace SalesLedger.Sql.Cell

/-- The bytes that a cell spells; none, where it has no value. -/
def bytes? : Cell → Option (List UInt8)
  | null => none
  | integer n => some (Text.Utf8.toBytes (toString n))
  | real x => some (Text.Utf8.toBytes (Decimal.Significant.text x))
  | text s => some (Text.Utf8.toBytes s)
  | malformed bytes | blob bytes => some bytes

def ofBytes (bytes : List UInt8) : Cell :=
  match String.fromUTF8? ⟨bytes.toArray⟩ with
  | some s => text s
  | none => malformed bytes

/-- What can be read of a text or of bytes. -/
def spelled? : Cell → Option String
  | text s => some s
  | malformed bytes | blob bytes => some (Text.Utf8.ofBytes bytes)
  | _ => none

/-! ## Laws -/

theorem bytes?_ofBytes (bytes : List UInt8) : (ofBytes bytes).bytes? = some bytes := by
  unfold ofBytes
  split
  · rename_i s h
    unfold String.fromUTF8? at h
    split at h
    · cases h
      rfl
    · cases h
  · rfl

end SalesLedger.Sql.Cell
