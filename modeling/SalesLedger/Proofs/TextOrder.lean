import SalesLedger.Sql.Cell

/-!
# The order of texts is that of their bytes

Texts are ordered by their characters; databases order them by the bytes of their encoding. The two
are one order (`le_iff_bytesLe`): the encoding of a character with a greater number is greater at
the first byte where the two differ, and neither begins with the other (`bytesLe_codes_of_lt`).
-/

namespace SalesLedger.Text.Utf8

open Sql.Cell (bytesLe)

/-! ## Characters -/

/-- The bytes of a character, as numbers. -/
def codes (c : Char) : List Nat :=
  (String.utf8EncodeChar c).map UInt8.toNat

theorem toNat_lt (c : Char) : c.toNat < 0x110000 := by
  rcases c.valid with h | ⟨-, h⟩
  · have hlow : c.toNat < 0xd800 := h
    omega
  · exact h

/-- The number of leading and following bytes is told by the number of the character. -/
theorem codes_eq (c : Char) : codes c =
    if c.toNat ≤ 0x7f then [c.toNat]
    else if c.toNat ≤ 0x7ff then [c.toNat / 64 + 0xc0, c.toNat % 64 + 0x80]
    else if c.toNat ≤ 0xffff then
      [c.toNat / 4096 + 0xe0, c.toNat / 64 % 64 + 0x80, c.toNat % 64 + 0x80]
    else
      [c.toNat / 262144 + 0xf0, c.toNat / 4096 % 64 + 0x80, c.toNat / 64 % 64 + 0x80,
        c.toNat % 64 + 0x80] := by
  have hbound := toNat_lt c
  have hval : c.val.toNat = c.toNat := rfl
  unfold codes String.utf8EncodeChar
  dsimp only
  rw [hval]
  generalize c.toNat = n at hbound ⊢
  split
  · simp only [List.map_cons, List.map_nil, UInt8.toNat_ofNat']
    rw [Nat.mod_eq_of_lt (by omega)]
  · split
    · simp only [List.map_cons, List.map_nil, UInt8.toNat_ofNat', List.cons.injEq, and_true]
      omega
    · split <;>
        simp only [List.map_cons, List.map_nil, UInt8.toNat_ofNat', List.cons.injEq, and_true] <;>
        omega

/-- **A character with a greater number has greater bytes**, whatever follows. -/
theorem bytesLe_codes_of_lt {c d : Char} (h : c.toNat < d.toNat) (as bs : List Nat) :
    bytesLe (codes c ++ as) (codes d ++ bs) = true ∧
      bytesLe (codes d ++ bs) (codes c ++ as) = false := by
  have hbound := toNat_lt d
  rw [codes_eq, codes_eq]
  generalize c.toNat = m at h ⊢
  generalize d.toNat = n at h hbound ⊢
  rw [← Bool.not_eq_true]
  split <;> split <;> (try split) <;> (try split) <;> (try split) <;> (try split) <;>
    simp only [List.cons_append, List.nil_append, bytesLe, Bool.or_eq_true, Bool.and_eq_true,
      decide_eq_true_eq, beq_iff_eq] <;> omega

theorem bytesLe_append_left (ps as bs : List Nat) :
    bytesLe (ps ++ as) (ps ++ bs) = bytesLe as bs := by
  induction ps with
  | nil => rfl
  | cons p ps ih => simp [bytesLe, ih]

theorem codes_ne_nil (c : Char) : codes c ≠ [] := by
  rw [codes_eq]
  split
  · exact List.cons_ne_nil _ _
  · split
    · exact List.cons_ne_nil _ _
    · split <;> exact List.cons_ne_nil _ _

/-! ## Texts -/

theorem bytesLe_flatMap_codes (cs ds : List Char) :
    bytesLe (cs.flatMap codes) (ds.flatMap codes) = true ↔ ¬ ds < cs := by
  induction cs generalizing ds with
  | nil => simp [bytesLe, List.not_lt_nil]
  | cons c cs ih =>
    cases ds with
    | nil =>
      obtain ⟨p, ps, hcodes⟩ := List.exists_cons_of_ne_nil (codes_ne_nil c)
      simp [hcodes, bytesLe]
    | cons d ds =>
      rw [List.flatMap_cons, List.flatMap_cons, List.cons_lt_cons_iff]
      rcases Nat.lt_trichotomy c.toNat d.toNat with hlt | heq | hgt
      · have hne : ¬ d < c := fun hdc => Nat.lt_asymm hlt hdc
        have hne' : d ≠ c := by
          rintro rfl
          exact Nat.lt_irrefl _ hlt
        simp [(bytesLe_codes_of_lt hlt _ _).1, hne, hne']
      · obtain rfl : c = d := Char.toNat_inj.1 heq
        have hne : ¬ c < c := Nat.lt_irrefl _
        rw [bytesLe_append_left, ih]
        simp only [hne, true_and, false_or]
      · have hdc : d < c := hgt
        simp [(bytesLe_codes_of_lt hgt _ _).2, hdc]

/-- The bytes of a text, as numbers. -/
def bytes (s : String) : List Nat :=
  (toBytes s).map UInt8.toNat

theorem bytes_eq (s : String) : bytes s = s.toList.flatMap codes := by
  have hdata : s.toUTF8.data.toList = s.toList.flatMap String.utf8EncodeChar := by
    rw [String.toUTF8_eq_toByteArray, ← String.utf8Encode_toList, List.utf8Encode,
      List.toList_data_toByteArray]
  rw [bytes, toBytes, hdata, List.map_flatMap]
  rfl

/-- **Texts are ordered by their bytes.** -/
theorem le_iff_bytesLe (s t : String) : s ≤ t ↔ bytesLe (bytes s) (bytes t) = true := by
  rw [bytes_eq, bytes_eq, bytesLe_flatMap_codes]
  rfl

end SalesLedger.Text.Utf8
