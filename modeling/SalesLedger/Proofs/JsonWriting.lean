import Mathlib.Tactic.SplitIfs
import SalesLedger.Proofs.NumberWriting

/-!
# Reading JSON that was written

The reader takes what the printer writes: `parse_compact`, for every value that a program can hold
(`IsHeld`) and that nests no deeper than the reader goes.

* `Quoted.read_quoted`: texts are read back, whatever characters are in them.
* `leads_compactChars`: a written value leads the text that it begins, if what follows does not go
  on with it.
-/

namespace SalesLedger.Json

/-! ## Texts -/

namespace Quoted

variable {c : Char} {cs tail : List Char} {n : Nat}

theorem hexValue?_hexDigit : ∀ n < 16, hexValue? (hexDigit n) = some n := by decide

theorem utf8Size_hexDigit : ∀ n < 16, (hexDigit n).utf8Size = 1 := by decide

/-- A control character is read by its number. -/
theorem byNumber_control (hc : c.toNat < 0x20) (tail : List Char) :
    byNumber ('0' :: '0' :: hexDigit (c.toNat / 16) :: hexDigit (c.toNat % 16) :: tail) =
      .ok (c, tail) := by
  have hhigh : c.toNat / 16 < 16 := by omega
  have hlow : c.toNat % 16 < 16 := Nat.mod_lt _ (by decide)
  have hfour : hexFour ('0' :: '0' :: hexDigit (c.toNat / 16) :: hexDigit (c.toNat % 16) :: tail) =
      .ok (c.toNat, tail) := by
    have hsize : ¬ Text.Utf8.size
        ('0' :: '0' :: hexDigit (c.toNat / 16) :: hexDigit (c.toNat % 16) :: tail) < 4 := by
      simp only [Text.Utf8.size_cons, utf8Size_hexDigit _ hhigh, utf8Size_hexDigit _ hlow]
      have hzero : '0'.utf8Size = 1 := rfl
      omega
    have hvalues : ['0', '0', hexDigit (c.toNat / 16), hexDigit (c.toNat % 16)].mapM hexValue? =
        some [0, 0, c.toNat / 16, c.toNat % 16] := by
      simp only [List.mapM_cons, List.mapM_nil, hexValue?_hexDigit _ hhigh,
        hexValue?_hexDigit _ hlow]
      rfl
    unfold hexFour
    rw [if_neg hsize, List.take_succ_cons, List.take_succ_cons, List.take_succ_cons,
      List.take_succ_cons, List.take_zero, hvalues]
    dsimp only
    rw [show ((0 * 16 + 0) * 16 + c.toNat / 16) * 16 + c.toNat % 16 = c.toNat by omega]
    rfl
  unfold byNumber
  rw [hfour]
  simp only [bind, Except.bind]
  rw [if_neg (by omega), if_neg (by omega), Char.ofNat_toNat]
  rfl

/-- A character is written with a letter or its number behind a backslash, or as it is. -/
theorem escapeChar_cases (c : Char) :
    (∃ l, escapeChar c = ['\\', l] ∧ l ≠ 'u' ∧ letter? l = some c) ∨
      (escapeChar c =
          ['\\', 'u', '0', '0', hexDigit (c.toNat / 16), hexDigit (c.toNat % 16)] ∧
        c.toNat < 0x20) ∨
      escapeChar c = [c] ∧ c ≠ '"' ∧ c ≠ '\\' ∧ ¬ c.toNat < 0x20 := by
  unfold escapeChar
  split_ifs with hquote hslash hline hreturn hindent hback hfeed hcontrol
  · exact .inl ⟨'"', rfl, by decide, by rw [eq_of_beq hquote]; rfl⟩
  · exact .inl ⟨'\\', rfl, by decide, by rw [eq_of_beq hslash]; rfl⟩
  · exact .inl ⟨'n', rfl, by decide, by rw [eq_of_beq hline]; rfl⟩
  · exact .inl ⟨'r', rfl, by decide, by rw [eq_of_beq hreturn]; rfl⟩
  · exact .inl ⟨'t', rfl, by decide, by rw [eq_of_beq hindent]; rfl⟩
  · obtain rfl : c = Char.ofNat 8 := Char.toNat_inj.1 (eq_of_beq hback)
    exact .inl ⟨'b', rfl, by decide, rfl⟩
  · obtain rfl : c = Char.ofNat 12 := Char.toNat_inj.1 (eq_of_beq hfeed)
    exact .inl ⟨'f', rfl, by decide, rfl⟩
  · exact .inr (.inl ⟨rfl, hcontrol⟩)
  · exact .inr (.inr ⟨rfl, mt beq_iff_eq.2 hquote, mt beq_iff_eq.2 hslash, hcontrol⟩)

/-- What follows a backslash is a character. -/
theorem chars_of_escape {left : List Char} (h : escape cs = .ok (c, left)) (n : Nat) :
    chars (n + 1) ('\\' :: cs) = (chars n left >>= fun found => pure (c :: found.1, found.2)) := by
  rw [chars, if_neg (by decide), if_pos (by decide), h]
  rfl

/-- **A written character is read back.** -/
theorem chars_escapeChar (n : Nat) (c : Char) (tail : List Char) :
    chars (n + 1) (escapeChar c ++ tail) =
      (chars n tail >>= fun found => pure (c :: found.1, found.2)) := by
  obtain ⟨l, htext, hletter, hvalue⟩ | ⟨htext, hcontrol⟩ | ⟨htext, hquote, hslash, hcontrol⟩ :=
    escapeChar_cases c
  · have hescape : escape (l :: tail) = .ok (c, tail) := by
      rw [escape, if_neg (mt eq_of_beq hletter), hvalue]
    rw [htext]
    exact chars_of_escape hescape n
  · have hescape : escape ('u' :: '0' :: '0' :: hexDigit (c.toNat / 16) ::
        hexDigit (c.toNat % 16) :: tail) = .ok (c, tail) := byNumber_control hcontrol tail
    rw [htext]
    exact chars_of_escape hescape n
  · rw [htext, List.singleton_append, chars, if_neg (mt eq_of_beq hquote),
      if_neg (mt eq_of_beq hslash), if_neg hcontrol]

theorem chars_flatMap (cs tail : List Char) (hn : cs.length < n) :
    chars n (cs.flatMap escapeChar ++ '"' :: tail) = .ok (cs, tail) := by
  induction cs generalizing n with
  | nil =>
    obtain ⟨n, rfl⟩ : ∃ m, n = m + 1 := ⟨n - 1, by omega⟩
    rfl
  | cons c cs ih =>
    rw [List.length_cons] at hn
    obtain ⟨n, rfl⟩ : ∃ m, n = m + 1 := ⟨n - 1, by omega⟩
    rw [List.flatMap_cons, List.append_assoc, chars_escapeChar, ih (by omega)]
    rfl

theorem length_le_flatMap (cs : List Char) : cs.length ≤ (cs.flatMap escapeChar).length := by
  induction cs with
  | nil => exact Nat.le_refl 0
  | cons c cs ih =>
    have hpos : 0 < (escapeChar c).length := by
      unfold escapeChar
      repeat' split
      all_goals exact Nat.succ_pos _
    rw [List.flatMap_cons, List.length_append, List.length_cons]
    omega

/-- **A text that was written is read back.** -/
theorem read_quoted (s : String) (tail : List Char) :
    ∃ left, quoted s ++ tail = '"' :: left ∧ read left = .ok (s, tail) := by
  refine ⟨s.toList.flatMap escapeChar ++ '"' :: tail, ?_, ?_⟩
  · rw [quoted, List.cons_append, List.append_assoc, List.singleton_append]
  · have hlength := length_le_flatMap s.toList
    unfold read
    rw [chars_flatMap s.toList tail (by
      rw [List.length_append, List.length_cons]
      omega)]
    simp only [bind, Except.bind, String.ofList_toList]
    rfl

end Quoted

/-! ## Values -/

/-- A value that a program can hold: its whole numbers have 64 bits, counted with a sign below zero,
and its doubles are finite. It nests at most so deep. -/
inductive IsHeld : Nat → Json → Prop
  | null {d : Nat} : IsHeld d .null
  | bool {d : Nat} (b : Bool) : IsHeld d (.bool b)
  | integer {d : Nat} {n : Int} (hlow : -0x8000000000000000 ≤ n) (hhigh : n ≤ 0xffffffffffffffff) :
      IsHeld d (.integer n)
  | real {d : Nat} {x : Float} (hx : x.isFinite = true) : IsHeld d (.real x)
  | text {d : Nat} (s : String) : IsHeld d (.text s)
  | array {d : Nat} {items : List Json} (h : ∀ v ∈ items, IsHeld d v) :
      IsHeld (d + 1) (.array items)
  | object {d : Nat} {fields : List (String × Json)} (h : ∀ f ∈ fields, IsHeld d f.2) :
      IsHeld (d + 1) (.object fields)

variable {cs left tail : List Char} {v : Json} {vs : List Json} {k : String}
  {fs : List (String × Json)} {depth : Nat}

/-- What may stand behind a value in a text. -/
def IsBehind (tail : List Char) : Prop :=
  ∀ c ∈ tail.head?, c = ',' ∨ c = ']' ∨ c = closeBrace

theorem IsBehind.isPast (h : IsBehind tail) : Numeral.IsPast tail := by
  intro c hc
  obtain rfl | rfl | rfl := h c hc <;> exact ⟨rfl, by decide, rfl⟩

/-- No blank stands before a value that a text leads with at once. -/
theorem LeadsWithLeaf.skipBlank_eq (h : LeadsWithLeaf cs v left) : skipBlank cs = cs := by
  cases h with
  | constant hc _ =>
    refine skipBlank_of_not_isBlank ?_ _
    unfold constant? at hc
    split_ifs at hc with hnull htrue hfalse
    · rw [eq_of_beq hnull]
      rfl
    · rw [eq_of_beq htrue]
      rfl
    · rw [eq_of_beq hfalse]
      rfl
  | negative _ => rfl
  | number hc _ =>
    have hne : ∀ b, isBlank b = true → Text.isDigit b = false → _ ≠ b := fun b _ => ne_of_isDigit hc
    refine skipBlank_of_not_isBlank ?_ _
    rw [isBlank, beq_false_of_ne (hne ' ' rfl rfl), beq_false_of_ne (hne '\n' rfl rfl),
      beq_false_of_ne (hne '\t' rfl rfl), beq_false_of_ne (hne '\r' rfl rfl)]
    rfl
  | text _ => rfl

/-! ### What follows an item or a field -/

/-- The text from after an item to the end of an array. -/
def itemsEnd (vs : List Json) (tail : List Char) : List Char :=
  match vs with
  | [] => ']' :: tail
  | v :: vs => ',' :: (compactItems (v :: vs) ++ ']' :: tail)

/-- The text from after a field to the end of an object. -/
def fieldsEnd (fs : List (String × Json)) (tail : List Char) : List Char :=
  match fs with
  | [] => closeBrace :: tail
  | f :: fs => ',' :: (compactFields (f :: fs) ++ closeBrace :: tail)

theorem compactItems_append (v : Json) (vs : List Json) (tail : List Char) :
    compactItems (v :: vs) ++ ']' :: tail = compactChars v ++ itemsEnd vs tail := by
  cases vs with
  | nil => rfl
  | cons w vs => simp only [compactItems, itemsEnd, List.append_assoc, List.cons_append]

theorem compactFields_append (k : String) (v : Json) (fs : List (String × Json))
    (tail : List Char) : compactFields ((k, v) :: fs) ++ closeBrace :: tail =
      quoted k ++ ':' :: (compactChars v ++ fieldsEnd fs tail) := by
  cases fs with
  | nil => simp only [compactFields, fieldsEnd, List.append_assoc, List.cons_append]
  | cons f fs => simp only [compactFields, fieldsEnd, List.append_assoc, List.cons_append]

theorem isBehind_itemsEnd (vs : List Json) (tail : List Char) : IsBehind (itemsEnd vs tail) := by
  cases vs with
  | nil =>
    rintro c ⟨⟩
    exact .inr (.inl rfl)
  | cons v vs =>
    rintro c ⟨⟩
    exact .inl rfl

theorem isBehind_fieldsEnd (fs : List (String × Json)) (tail : List Char) :
    IsBehind (fieldsEnd fs tail) := by
  cases fs with
  | nil =>
    rintro c ⟨⟩
    exact .inr (.inr rfl)
  | cons f fs =>
    rintro c ⟨⟩
    exact .inl rfl

/-! ### Items and fields -/

/-- A written value leads whatever follows it. -/
def IsLed (depth : Nat) (v : Json) : Prop :=
  ∀ tail, IsBehind tail → ∃ w, Leads depth (.value (compactChars v ++ tail) w) tail

theorem exists_moreItems (h : ∀ v ∈ vs, IsLed depth v) (tail : List Char) :
    ∃ ws, Leads depth (.moreItems (itemsEnd vs tail) ws) tail := by
  induction vs with
  | nil => exact ⟨[], .endItems rfl⟩
  | cons v vs ih =>
    obtain ⟨w, hw⟩ := h v List.mem_cons_self _ (isBehind_itemsEnd vs tail)
    obtain ⟨ws, hws⟩ := ih fun u hu => h u (List.mem_cons_of_mem _ hu)
    rw [itemsEnd, compactItems_append]
    exact ⟨w :: ws, .nextItem rfl hw hws⟩

theorem exists_items (h : ∀ v ∈ vs, IsLed depth v) (tail : List Char) :
    ∃ ws, Leads depth (.items (compactItems vs ++ ']' :: tail) ws) tail := by
  cases vs with
  | nil => exact ⟨[], .noItems rfl⟩
  | cons v vs =>
    obtain ⟨w, hw⟩ := h v List.mem_cons_self _ (isBehind_itemsEnd vs tail)
    obtain ⟨ws, hws⟩ := exists_moreItems (fun u hu => h u (List.mem_cons_of_mem _ hu)) tail
    rw [compactItems_append]
    exact ⟨w :: ws, .items hw hws⟩

/-- The fields of an object, and those from after a field, begin at a key or at the end. -/
theorem exists_fields (h : ∀ f ∈ fs, IsLed depth f.2) (tail : List Char) :
    ∃ ahead ws, firstKey (compactFields fs ++ closeBrace :: tail) = .ok ahead ∧
      nextKey (fieldsEnd fs tail) = .ok ahead ∧ Leads depth (.fields ahead ws) tail := by
  induction fs with
  | nil => exact ⟨.finished tail, [], rfl, rfl, .endFields⟩
  | cons f fs ih =>
    obtain ⟨k, v⟩ := f
    obtain ⟨w, hw⟩ := h (k, v) List.mem_cons_self _ (isBehind_fieldsEnd fs tail)
    obtain ⟨ahead, ws, -, hnext, hws⟩ := ih fun g hg => h g (List.mem_cons_of_mem _ hg)
    obtain ⟨left, hquoted, hread⟩ :=
      Quoted.read_quoted k (':' :: (compactChars v ++ fieldsEnd fs tail))
    rw [fieldsEnd, compactFields_append, hquoted]
    exact ⟨.key left, (k, w) :: ws, rfl, rfl, .field hread rfl hw hnext hws⟩

/-! ### Whole values -/

/-- **A written value leads** the text that it begins. -/
theorem leads_compactChars (h : IsHeld depth v) : IsLed (depth + 1) v := by
  have hleaf : ∀ {d : Nat} {u w : Json} {tail : List Char},
      LeadsWithLeaf (compactChars u ++ tail) w tail →
        Leads d (.value (compactChars u ++ tail) w) tail :=
    fun h => .leaf h.skipBlank_eq h
  induction h with
  | null =>
    intro tail _
    exact ⟨.null, hleaf (.constant rfl rfl)⟩
  | bool b =>
    intro tail _
    cases b with
    | false => exact ⟨.bool false, hleaf (.constant rfl rfl)⟩
    | true => exact ⟨.bool true, hleaf (.constant rfl rfl)⟩
  | integer hlow hhigh =>
    intro tail htail
    exact ⟨_, hleaf (Numeral.leadsWithLeaf_integer hlow hhigh htail.isPast)⟩
  | real hx =>
    intro tail htail
    obtain ⟨w, hw⟩ := Numeral.leadsWithLeaf_floatText hx htail.isPast
    exact ⟨w, hleaf hw⟩
  | text s =>
    intro tail _
    obtain ⟨left, hquoted, hread⟩ := Quoted.read_quoted s tail
    refine ⟨.text s, hleaf ?_⟩
    rw [show compactChars (.text s) = quoted s from rfl, hquoted]
    exact .text hread
  | @array d items _ ih =>
    intro tail _
    obtain ⟨ws, hws⟩ := exists_items ih tail
    refine ⟨.array ws, .array ?_ hws⟩
    rw [compactChars, List.cons_append, List.append_assoc]
    rfl
  | @object d fields _ ih =>
    intro tail _
    obtain ⟨ahead, ws, hfirst, -, hws⟩ := exists_fields ih tail
    refine ⟨ofFields ws, .object ?_ hfirst hws⟩
    rw [compactChars, List.cons_append, List.append_assoc]
    rfl

/-- **What is written is read**, if it does not nest deeper than the reader goes. -/
theorem parse_compact (h : IsHeld (depthLimit - 1) v) : ∃ w, parse (compact v) = .ok w := by
  obtain ⟨w, hw⟩ := leads_compactChars h [] (fun c hc => nomatch hc)
  refine ⟨w, parse_eq_ok_iff.2 ⟨[], ?_, rfl⟩⟩
  rw [compact, String.toList_ofList]
  rwa [List.append_nil] at hw

/-- A text is read as itself from how it is written. -/
theorem parse_compact_text (s : String) : parse (compact (.text s)) = .ok (.text s) := by
  obtain ⟨left, hquoted, hread⟩ := Quoted.read_quoted s []
  rw [List.append_nil] at hquoted
  have hleaf : LeadsWithLeaf (compact (.text s)).toList (.text s) [] := by
    rw [compact, String.toList_ofList, show compactChars (.text s) = quoted s from rfl, hquoted]
    exact .text hread
  exact parse_eq_ok_iff.2 ⟨[], .leaf hleaf.skipBlank_eq hleaf, rfl⟩

end SalesLedger.Json
