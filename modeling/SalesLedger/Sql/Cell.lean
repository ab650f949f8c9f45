import SalesLedger.Decimal.Binary64
import SalesLedger.Json.Value
import SalesLedger.Text.Utf8

/-!
# Cells

The values of a table's cells and their order: nothing, then numbers by value, then texts, then
bytes. Whole numbers and doubles are compared exactly, through units of the least double. A text
may have bytes that are not well-formed; it is shown, and ordered, by what can be read of it.

Main statements: `le_total` and `le_trans`, the order of cells is total and transitive.
-/

namespace SalesLedger.Sql

/-- The value of a cell. -/
inductive Cell where
  | null
  | integer (n : Int)
  | real (x : Float)
  | text (s : String)
  /-- A text whose bytes are no well-formed UTF-8. -/
  | malformed (bytes : List UInt8)
  | blob (bytes : List UInt8)
  deriving DecidableEq

namespace Cell

/-- The kind of a value, as a query's answer names it. -/
def kind : Cell → String
  | null => "null"
  | integer _ => "integer"
  | real _ => "real"
  | text _ | malformed _ => "text"
  | blob _ => "blob"

/-- A double, where there is one: what is no number is nothing. -/
def ofFloat (x : Float) : Cell :=
  if x.isNaN then null else real x

/-- A cell as JSON. Bytes are read as text. -/
def toJson : Cell → Json
  | null => .null
  | integer n => .integer n
  | real x => Json.ofFloat x
  | text s => .text s
  | malformed bytes | blob bytes => .text (Text.Utf8.ofBytes bytes)

/-! ## Order -/

/-- What a cell is ordered by. Kinds come one after the other; within a kind there is an order of
its own. -/
inductive Key where
  | null
  | number (units : Int)
  /-- What can be read of a text, and its bytes where that is not the text. -/
  | text (s : String) (bytes : List Nat)
  | blob (bytes : List Nat)
  deriving DecidableEq

def key : Cell → Key
  | null => .null
  | integer n => .number (Decimal.Binary64.unitsOfInt n)
  | real x => .number (Decimal.Binary64.units x)
  | text s => .text s []
  | malformed bytes => .text (Text.Utf8.ofBytes bytes) (bytes.map UInt8.toNat)
  | blob bytes => .blob (bytes.map UInt8.toNat)

/-- Whether one row of bytes comes before another or equals it: the first difference decides, and a
row comes before those that go on from it. -/
def bytesLe : List Nat → List Nat → Bool
  | [], _ => true
  | _ :: _, [] => false
  | a :: as, b :: bs => a < b || (a == b && bytesLe as bs)

/-- Whether one text comes before another, or equals it and its bytes come before the other's or
equal them. -/
def textLe (a b : String) (as bs : List Nat) : Bool :=
  if a = b then bytesLe as bs else a ≤ b

/-- Whether one key comes before another or is the same. -/
def Key.le : Key → Key → Bool
  | .null, _ => true
  | .number _, .null => false
  | .number a, .number b => a ≤ b
  | .number _, _ => true
  | .text _ _, .null => false
  | .text _ _, .number _ => false
  | .text a as, .text b bs => textLe a b as bs
  | .text _ _, .blob _ => true
  | .blob a, .blob b => bytesLe a b
  | .blob _, _ => false

/-- Whether one cell comes before another or equals it. -/
def le (a b : Cell) : Bool :=
  a.key.le b.key

/-- Whether two cells have the same place in the order. -/
def same (a b : Cell) : Bool :=
  a.key = b.key

/-! ## Laws -/

theorem bytesLe_refl (as : List Nat) : bytesLe as as = true := by
  induction as with
  | nil => rfl
  | cons a as ih => simp [bytesLe, ih]

theorem bytesLe_total (as bs : List Nat) : (bytesLe as bs || bytesLe bs as) = true := by
  induction as generalizing bs with
  | nil => rfl
  | cons a as ih =>
    cases bs with
    | nil => rfl
    | cons b bs =>
      have h := ih bs
      simp only [bytesLe, Bool.or_eq_true, Bool.and_eq_true, decide_eq_true_eq, beq_iff_eq] at h ⊢
      rcases Nat.lt_trichotomy a b with hlt | rfl | hgt
      · exact .inl (.inl hlt)
      · rcases h with h | h
        · exact .inl (.inr ⟨rfl, h⟩)
        · exact .inr (.inr ⟨rfl, h⟩)
      · exact .inr (.inl hgt)

theorem bytesLe_trans {as bs cs : List Nat} (h : bytesLe as bs = true)
    (h' : bytesLe bs cs = true) : bytesLe as cs = true := by
  induction as generalizing bs cs with
  | nil => rfl
  | cons a as ih =>
    cases bs with
    | nil => cases h
    | cons b bs =>
      cases cs with
      | nil => cases h'
      | cons c cs =>
        simp only [bytesLe, Bool.or_eq_true, Bool.and_eq_true, decide_eq_true_eq, beq_iff_eq]
          at h h' ⊢
        rcases h with h | ⟨rfl, h⟩
        · rcases h' with h' | ⟨rfl, _⟩
          · exact .inl (Nat.lt_trans h h')
          · exact .inl h
        · rcases h' with h' | ⟨rfl, h'⟩
          · exact .inl h'
          · exact .inr ⟨rfl, ih h h'⟩

theorem textLe_total (a b : String) (as bs : List Nat) :
    (textLe a b as bs || textLe b a bs as) = true := by
  by_cases h : a = b
  · subst h
    simpa [textLe] using bytesLe_total as bs
  · simpa [textLe, h, Ne.symm h] using String.le_total a b

theorem textLe_trans {a b c : String} {as bs cs : List Nat} (h : textLe a b as bs = true)
    (h' : textLe b c bs cs = true) : textLe a c as cs = true := by
  unfold textLe at h h' ⊢
  by_cases hab : a = b
  · subst hab
    by_cases hac : a = c
    · rw [if_pos rfl] at h
      rw [if_pos hac] at h' ⊢
      exact bytesLe_trans h h'
    · rw [if_neg hac] at h' ⊢
      exact h'
  · rw [if_neg hab] at h
    have hle : a ≤ b := of_decide_eq_true h
    by_cases hbc : b = c
    · rw [if_neg (hbc ▸ hab)]
      exact decide_eq_true (hbc ▸ hle)
    · rw [if_neg hbc] at h'
      have hle' : b ≤ c := of_decide_eq_true h'
      have hac : a ≠ c := fun heq => hab (String.le_antisymm hle (heq ▸ hle'))
      rw [if_neg hac]
      exact decide_eq_true (String.le_trans hle hle')

theorem Key.le_refl (a : Key) : a.le a = true := by
  cases a with
  | blob bytes => exact bytesLe_refl bytes
  | null => rfl
  | number a => simp [le]
  | text s bytes => simp [le, textLe, bytesLe_refl]

theorem Key.le_total (a b : Key) : (a.le b || b.le a) = true := by
  cases a <;> cases b <;> simp [le]
  · exact Int.le_total _ _
  · simpa using textLe_total _ _ _ _
  · simpa using bytesLe_total _ _

theorem Key.le_trans {a b c : Key} (h : a.le b = true) (h' : b.le c = true) : a.le c = true := by
  cases a <;> cases b <;> simp [le] at h <;> cases c <;> simp [le] at h' ⊢
  · exact Int.le_trans h h'
  · exact textLe_trans h h'
  · exact bytesLe_trans h h'

theorem text_le (a b : String) : (text a).le (text b) = decide (a ≤ b) := by
  have h : (text a).le (text b) = textLe a b [] [] := rfl
  rw [h, textLe]
  by_cases heq : a = b
  · rw [if_pos heq, heq]
    exact (decide_eq_true (String.le_refl b)).symm
  · rw [if_neg heq]

theorem le_total (a b : Cell) : (a.le b || b.le a) = true := Key.le_total _ _

theorem le_trans {a b c : Cell} (h : a.le b = true) (h' : b.le c = true) : a.le c = true :=
  Key.le_trans h h'

end Cell

end SalesLedger.Sql
