import Mathlib.Data.String.Basic
import SalesLedger.Proofs.JsonWriting
import SalesLedger.Proofs.Places

/-!
# Numbers that name files

The numbers of tenants are the texts that can stand in the name of a file whatever stands around
them: `parse_stem`. A text is read just if it is one once the blanks at its ends are gone, what is
read is that text, and it is read again from itself and from its JSON. The file that it names is one
part of a path, so it lies in the directory of the ledgers, and no two numbers name one file.

* `wellFormed_iff`: what is checked of a number, in characters.
* `parse_eq_ok_iff`: the number that a text is read as.
* `isComponent_ledgerFile`: the name of a ledger's file is one part of a path.
-/

namespace SalesLedger

/-- Characters of ASCII take one byte each. -/
theorem Text.utf8ByteSize_of_ascii {s : String} (h : ∀ c ∈ s.toList, c.toNat < 0x80) :
    s.utf8ByteSize = s.length := by
  rw [← String.utf8Len_toList, ← String.length_toList]
  generalize s.toList = cs at h ⊢
  induction cs with
  | nil => rfl
  | cons c cs ih =>
    obtain ⟨hc, hcs⟩ := List.forall_mem_cons.1 h
    have hone : c.utf8Size = 1 :=
      Char.utf8Size_eq_one_iff.2 (UInt32.le_iff_toNat_le.2 (Nat.le_of_lt_succ hc))
    rw [String.utf8Len_cons, List.length_cons, hone, ih hcs]

/-! ## Paths -/

namespace Storage.Path

/-- The name of a file is one part of a path: it has no slash of either kind, and joined to a
directory it leads one place further. -/
structure IsComponent (file : String) : Prop where
  slashes : '/' ∉ file.toList ∧ '\\' ∉ file.toList
  alone : parts file = [file]
  below : ∀ (working : Place) (dir : String),
    place working (join dir file) = place working dir ++ [file]

end Storage.Path

namespace Tenant

/-! ## Characters -/

/-- A text that can stand in the name of a file: 1 to 32 characters, each a letter or a digit of
ASCII, a plus sign, a hyphen or an underscore. -/
structure IsStem (s : String) : Prop where
  nonempty : 1 ≤ s.length
  short : s.length ≤ 32
  safe : ∀ c ∈ s.toList, c.isAlphanum = true ∨ c = '+' ∨ c = '-' ∨ c = '_'

theorem allowed_iff {c : Char} :
    allowed c = true ↔ c.isAlphanum = true ∨ c = '+' ∨ c = '-' ∨ c = '_' := by
  have halphanum : (Text.isLetter c || Text.isDigit c) = c.isAlphanum := by
    rw [Bool.eq_iff_iff]
    simp only [Text.isLetter, Text.isDigit, Text.digit?, Char.isAlphanum, Char.isAlpha,
      Char.isUpper, Char.isLower, Char.isDigit, Bool.or_eq_true, Bool.and_eq_true,
      decide_eq_true_eq, Option.isSome_ite, ge_iff_le, UInt32.le_iff_toNat_le]
    exact Iff.rfl
  simp only [allowed, halphanum, Bool.or_eq_true, beq_iff_eq, or_assoc]

/-- **What is checked of a number**, in characters. The bytes are counted before the characters are
looked at, but characters that pass take one byte each. -/
theorem wellFormed_iff {id : String} : WellFormed id ↔ IsStem id := by
  have hlength : (∀ c ∈ id.toList, allowed c = true) → id.utf8ByteSize = id.length :=
    fun h => Text.utf8ByteSize_of_ascii fun c hc => (toNat_of_allowed (h c hc)).2
  have hempty : id ≠ "" ↔ 1 ≤ id.length := by
    rw [Nat.one_le_iff_ne_zero, ne_eq, ne_eq, String.length_eq_zero_iff]
  constructor
  · rintro ⟨hne, hshort, hall⟩
    exact ⟨hempty.1 hne, hlength hall ▸ hshort, fun c hc => allowed_iff.1 (hall c hc)⟩
  · rintro ⟨hne, hshort, hsafe⟩
    have hall : ∀ c ∈ id.toList, allowed c = true := fun c hc => allowed_iff.2 (hsafe c hc)
    exact ⟨hempty.2 hne, hlength hall ▸ hshort, hall⟩

/-! ## Reading -/

variable {raw : String} {t : Tenant}

theorem check_id (t : Tenant) : check t.id = .ok t := by
  obtain ⟨id, hid⟩ := t
  have hnone : id.toList.find? (fun c => !allowed c) = none :=
    List.find?_eq_none.2 fun c hc => by simp [hid.2.2 c hc]
  unfold check
  rw [dif_neg hid.1, dif_neg (Nat.not_lt.2 hid.2.1)]
  split
  · rename_i c hc
    rw [hnone] at hc
    cases hc
  · rfl

theorem id_of_check {id : String} (h : check id = .ok t) : t.id = id := by
  unfold check at h
  split at h
  · cases h
  · split at h
    · cases h
    · split at h
      · cases h
      · cases h
        rfl

/-- **The number that a text is read as** is the text without the blanks at its ends. -/
theorem parse_eq_ok_iff : parse raw = .ok t ↔ t.id = Text.trim raw := by
  constructor
  · exact id_of_check
  · intro h
    rw [parse, ← h, check_id]

theorem exists_parse_iff : (∃ t, parse raw = .ok t) ↔ IsStem (Text.trim raw) := by
  simp only [parse_eq_ok_iff, ← wellFormed_iff]
  constructor
  · rintro ⟨t, ht⟩
    exact ht ▸ t.wellFormed
  · exact fun h => ⟨⟨_, h⟩, rfl⟩

theorem trim_id (t : Tenant) : Text.trim t.id = t.id :=
  Text.trim_of_no_blank fun c hc => not_blank_of_allowed (t.wellFormed.2.2 c hc)

/-- A number is read from itself. -/
theorem parse_id (t : Tenant) : parse t.id = .ok t :=
  parse_eq_ok_iff.2 (trim_id t).symm

/-- A tenant as a JSON value. -/
def toJson (t : Tenant) : Json :=
  .text t.id

theorem ofJson_toJson (t : Tenant) : ofJson t.toJson = .ok t := by
  rw [toJson, ofJson, parse_id]

/-! ## Files -/

/-- **The name of a ledger's file is one part of a path.** -/
theorem isComponent_ledgerFile (t : Tenant) : Storage.Path.IsComponent t.ledgerFile where
  slashes := ⟨Storage.slash_not_mem_ledgerFile t,
    Storage.not_mem_ledgerFile t (by decide) (by decide)⟩
  alone := Storage.Path.parts_of_plain (Storage.slash_not_mem_ledgerFile t)
  below working dir := Storage.Path.place_join working dir (Storage.slash_not_mem_ledgerFile t)
    (Storage.isIdle_ledgerFile t) (Storage.ledgerFile_ne (by decide))

/-- **Numbers are the texts that can stand in the name of a file.** A text reads just if it is one
without the blanks at its ends, and what it reads as is that text. Every number reads again from
itself and from its JSON, as a value and as a text. It names its file by one part of a path, and no
other number names that file. -/
theorem parse_stem (raw : String) :
    ((∃ t, parse raw = .ok t) ↔ IsStem (Text.trim raw)) ∧
    ∀ t : Tenant, (parse raw = .ok t ↔ t.id = Text.trim raw) ∧
      parse t.id = .ok t ∧ ofJson t.toJson = .ok t ∧
      Json.parse (Json.compact t.toJson) = .ok t.toJson ∧
      Storage.Path.IsComponent t.ledgerFile ∧
      ∀ u : Tenant, u.ledgerFile = t.ledgerFile ↔ u.id = t.id := by
  refine ⟨exists_parse_iff, fun t => ⟨parse_eq_ok_iff, parse_id t, ofJson_toJson t,
    Json.parse_compact_text t.id, isComponent_ledgerFile t, fun u => ⟨fun h => ?_, fun h => ?_⟩⟩⟩
  · rw [ledgerFile_injective h]
  · rw [ledgerFile, ledgerFile, h]

/-- Blanks beyond ASCII are left out too. -/
example : (parse "\u3000+977-9800000001 ").toOption.map ledgerFile =
    some "sales_+977-9800000001.db" := by decide +kernel

end Tenant

end SalesLedger
