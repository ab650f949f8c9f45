import SalesLedger.Failure
import SalesLedger.Json.Mismatch
import SalesLedger.Text.Ascii
import SalesLedger.Text.Blank

/-!
# Tenants

A tenant is a vendor, known by a phone number. The number becomes part of a file name, so it is
checked once, when it is read, and carries the proof of what was checked.

Main statement: `ledgerFile_injective`, two tenants never share a file.
-/

namespace SalesLedger

namespace Tenant

/-- The characters that a number may have. -/
def allowed (c : Char) : Bool :=
  Text.isLetter c || Text.isDigit c || c == '+' || c == '-' || c == '_'

/-- The most bytes that a number may have. -/
def longest : Nat := 32

/-- What is checked of a number. -/
def WellFormed (id : String) : Prop :=
  id ≠ "" ∧ id.utf8ByteSize ≤ longest ∧ ∀ c ∈ id.toList, allowed c = true

instance (id : String) : Decidable (WellFormed id) :=
  decidable_of_iff (id ≠ "" ∧ id.utf8ByteSize ≤ longest ∧ id.toList.all allowed = true)
    (by simp only [WellFormed, List.all_eq_true])

/-- Why a text is no number of a tenant. -/
inductive Fault where
  | empty
  | tooLong (id : String)
  | unsupported (id : String) (character : Char)
  deriving Repr, DecidableEq

/-- What a message says about it. -/
def Fault.message : Fault → String
  | .empty => "empty phone number"
  | .tooLong id => "'" ++ id ++ "' is longer than " ++ toString longest ++ " characters"
  | .unsupported id c =>
    "'" ++ id ++ "' contains unsupported character '" ++ String.singleton c ++ "'"

end Tenant

/-- A vendor by phone number. -/
structure Tenant where
  id : String
  wellFormed : Tenant.WellFormed id
  deriving DecidableEq

namespace Tenant

/-- Checks a number from which the blanks at its ends are gone. -/
def check (id : String) : Except Fault Tenant :=
  if he : id = "" then .error .empty
  else if hl : longest < id.utf8ByteSize then .error (.tooLong id)
  else
    match hf : id.toList.find? (fun c => !allowed c) with
    | some c => .error (.unsupported id c)
    | none =>
      .ok ⟨id, he, Nat.le_of_not_lt hl, fun c hc => by
        simpa using List.find?_eq_none.1 hf c hc⟩

/-- Reads a number, blanks at its ends left out. -/
def parse (raw : String) : Except Fault Tenant :=
  check (Text.trim raw)

/-- The failure of a number that does not read. -/
def Fault.toFailure (f : Fault) : Failure :=
  ⟨.invalidTenant, f.message⟩

/-- The name of a tenant's ledger file. -/
def ledgerFile (t : Tenant) : String :=
  "sales_" ++ t.id ++ ".db"

/-- A tenant from a JSON value. -/
def ofJson : Json → Except Json.Mismatch Tenant
  | .text s =>
    match parse s with
    | .ok t => .ok t
    | .error f => .error (.custom f.toFailure.message)
  | v => .error (.wrongType v "a string")

/-! ## Laws -/

theorem toNat_of_allowed {c : Char} (h : allowed c = true) : 0x2b ≤ c.toNat ∧ c.toNat < 0x80 := by
  simp only [allowed, Text.isLetter, Text.isDigit, Text.digit?, Bool.or_eq_true, Bool.and_eq_true,
    decide_eq_true_eq, beq_iff_eq] at h
  rcases h with (((h | h) | rfl) | rfl) | rfl
  · omega
  · split at h
    · omega
    · cases h
  all_goals decide

theorem not_blank_of_allowed {c : Char} (h : allowed c = true) : Text.isBlank c = false := by
  have hc := toNat_of_allowed h
  simp [Text.isBlank]
  omega

theorem id_injective {s t : Tenant} (h : s.id = t.id) : s = t := by
  cases s
  cases t
  cases h
  rfl

theorem ledgerFile_injective {s t : Tenant} (h : s.ledgerFile = t.ledgerFile) : s = t := by
  have h' := congrArg String.toList h
  simp only [ledgerFile, String.toList_append] at h'
  exact id_injective
    (String.toList_injective (List.append_cancel_left (List.append_cancel_right h')))

end Tenant

end SalesLedger
