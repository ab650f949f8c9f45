import SalesLedger.Sql.Cell
import SalesLedger.Text.Case

/-!
# Collations

Which texts a column takes for equal, and how it orders them. Every collation compares what is
left of a text when the differences that it overlooks are taken out; numbers and bytes are
compared as they are.

Main statements: `fold_idem`, overlooking twice is overlooking once, and `cell_binary`, the usual
collation overlooks nothing.
-/

namespace SalesLedger.Sql

/-- What a comparison of texts overlooks. -/
inductive Collation where
  /-- Nothing. -/
  | binary
  /-- The case of the letters A to Z. -/
  | nocase
  /-- Spaces at the end. -/
  | rtrim
  deriving Repr, DecidableEq

namespace Collation

def name : Collation → String
  | binary => "binary"
  | nocase => "nocase"
  | rtrim => "rtrim"

/-- The collation with a name, in any case. -/
def ofName? (s : String) : Option Collation :=
  [binary, nocase, rtrim].find? fun c => Text.equalAscii c.name s

/-- A list without the spaces at its end. -/
def dropSpaces : List Char → List Char
  | [] => []
  | c :: cs =>
    match dropSpaces cs with
    | [] => if c == ' ' then [] else [c]
    | d :: ds => c :: d :: ds

/-- What is left of a text when the differences that do not count are taken out. -/
def fold : Collation → String → String
  | binary, s => s
  | nocase, s => Text.lowerAscii s
  | rtrim, s => String.ofList (dropSpaces s.toList)

/-- What is left of the bytes of a text. -/
def foldBytes : Collation → List UInt8 → List UInt8
  | binary, bytes => bytes
  | nocase, bytes => bytes.map fun b => if 0x41 ≤ b.toNat ∧ b.toNat ≤ 0x5a then b + 0x20 else b
  | rtrim, bytes => (bytes.reverse.dropWhile (· == 0x20)).reverse

/-- A cell with the differences that do not count taken out. -/
def cell (c : Collation) : Cell → Cell
  | .text s => .text (c.fold s)
  | .malformed bytes => .malformed (c.foldBytes bytes)
  | x => x

/-! ## Laws -/

theorem dropSpaces_idem (cs : List Char) : dropSpaces (dropSpaces cs) = dropSpaces cs := by
  induction cs with
  | nil => rfl
  | cons c cs ih =>
    rw [dropSpaces]
    split
    · split
      · rfl
      · rename_i hc
        simp [dropSpaces, hc]
    · rename_i d ds h
      rw [h] at ih
      rw [dropSpaces, ih]

theorem fold_idem (c : Collation) (s : String) : c.fold (c.fold s) = c.fold s := by
  cases c with
  | binary => rfl
  | nocase => exact Text.lowerAscii_idem s
  | rtrim => simp [fold, dropSpaces_idem]

theorem cell_binary (x : Cell) : binary.cell x = x := by
  cases x <;> rfl

theorem lowerByte_idem (b : UInt8) :
    (fun b : UInt8 => if 0x41 ≤ b.toNat ∧ b.toNat ≤ 0x5a then b + 0x20 else b)
      (if 0x41 ≤ b.toNat ∧ b.toNat ≤ 0x5a then b + 0x20 else b) =
      if 0x41 ≤ b.toNat ∧ b.toNat ≤ 0x5a then b + 0x20 else b := by
  by_cases h : 0x41 ≤ b.toNat ∧ b.toNat ≤ 0x5a
  · have hn : (b + 0x20).toNat = b.toNat + 0x20 := by
      rw [UInt8.toNat_add]
      exact Nat.mod_eq_of_lt (by simp; omega)
    simp only [if_pos h, hn]
    rw [if_neg (by omega)]
  · simp only [if_neg h]

theorem dropWhile_idem {α : Type} (p : α → Bool) (xs : List α) :
    (xs.dropWhile p).dropWhile p = xs.dropWhile p := by
  induction xs with
  | nil => rfl
  | cons x xs ih =>
    rw [List.dropWhile_cons]
    split
    · exact ih
    · rename_i hx
      rw [List.dropWhile_cons, if_neg hx]

theorem foldBytes_idem (c : Collation) (bytes : List UInt8) :
    c.foldBytes (c.foldBytes bytes) = c.foldBytes bytes := by
  cases c with
  | binary => rfl
  | nocase =>
    rw [foldBytes, foldBytes, List.map_map]
    exact List.map_congr_left fun b _ => lowerByte_idem b
  | rtrim => rw [foldBytes, foldBytes, List.reverse_reverse, dropWhile_idem]

theorem cell_idem (c : Collation) (x : Cell) : c.cell (c.cell x) = c.cell x := by
  cases x with
  | text s => exact congrArg Cell.text (fold_idem c s)
  | malformed bytes => exact congrArg Cell.malformed (foldBytes_idem c bytes)
  | null => rfl
  | integer n => rfl
  | real x => rfl
  | blob bytes => rfl

theorem ofName?_name (c : Collation) : ofName? c.name = some c := by
  cases c <;> decide +kernel

end Collation

end SalesLedger.Sql
