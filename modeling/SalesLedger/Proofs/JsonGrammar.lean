import SalesLedger.Json.Printer
import SalesLedger.Proofs.JsonTokens

/-!
# The grammar of JSON texts

What the reader of JSON takes, without its bounds on steps: which value, which items or which fields
a text leads with, and what is left of it. `Leads` has one constructor for each way the reader can
go on.

* `Leads.computes` and `leads_of_computes`: the reader takes just what the grammar has, as long as
  it may take twice as many steps as there are characters.
* `Leads.skips`: what the grammar has can be passed over.
* `parse_eq_ok_iff`: a text is read as the value that it leads with, where blanks follow.
-/

namespace SalesLedger.Json

section

variable {cs rest : List Char} {c : Char} {ahead : KeyAhead}

/-! ## Braces and blanks -/

theorem toNat_eq_openBrace_iff : c.toNat = 0x7b ↔ c = openBrace := by
  rw [← Char.toNat_inj]
  rfl

theorem toNat_eq_closeBrace_iff : c.toNat = 0x7d ↔ c = closeBrace := by
  rw [← Char.toNat_inj]
  rfl

theorem isBlank_of_skipBlank (h : skipBlank cs = c :: rest) : isBlank c = false := by
  have hhead := List.head?_dropWhile_not isBlank cs
  rw [show cs.dropWhile isBlank = c :: rest from h] at hhead
  simpa using hhead

theorem skipBlank_of_not_isBlank (h : isBlank c = false) (cs : List Char) :
    skipBlank (c :: cs) = c :: cs := by
  rw [skipBlank, List.dropWhile_cons, h]
  rfl

theorem skipBlank_idem (h : skipBlank cs = c :: rest) : skipBlank (c :: rest) = c :: rest :=
  skipBlank_of_not_isBlank (isBlank_of_skipBlank h) rest

theorem length_skipBlank_le (cs : List Char) : (skipBlank cs).length ≤ cs.length :=
  (List.dropWhile_suffix isBlank).length_le

theorem length_lt_of_skipBlank (h : skipBlank cs = c :: rest) : rest.length < cs.length := by
  have hle := length_skipBlank_le cs
  rw [h, List.length_cons] at hle
  omega

/-! ## Keys -/

theorem skipBlank_of_colon (h : colon cs = .ok rest) : skipBlank cs = ':' :: rest := by
  unfold colon at h
  split at h
  · cases h
  · rename_i c left hcs
    split at h
    · rename_i hc
      rw [hcs, eq_of_beq hc, Except.ok.inj h]
    · cases h

theorem exists_of_firstKey (h : firstKey cs = .ok ahead) :
    (∃ rest, skipBlank cs = closeBrace :: rest ∧ ahead = .finished rest) ∨
      ∃ rest, skipBlank cs = '"' :: rest ∧ ahead = .key rest := by
  unfold firstKey at h
  split at h
  · cases h
  · rename_i c left hcs
    split at h
    · rename_i hclose
      cases h
      exact .inl ⟨left, by rw [hcs, toNat_eq_closeBrace_iff.1 (eq_of_beq hclose)], rfl⟩
    · split at h
      · rename_i hquote
        cases h
        exact .inr ⟨left, by rw [hcs, eq_of_beq hquote], rfl⟩
      · cases h

theorem exists_of_nextKey (h : nextKey cs = .ok ahead) :
    (∃ rest, skipBlank cs = closeBrace :: rest ∧ ahead = .finished rest) ∨
      ∃ left rest, skipBlank cs = ',' :: left ∧ skipBlank left = '"' :: rest ∧
        ahead = .key rest := by
  unfold nextKey at h
  split at h
  · cases h
  · rename_i c left hcs
    split at h
    · rename_i hclose
      cases h
      exact .inl ⟨left, by rw [hcs, toNat_eq_closeBrace_iff.1 (eq_of_beq hclose)], rfl⟩
    · split at h
      · rename_i hcomma
        rw [eq_of_beq hcomma] at hcs
        split at h
        · cases h
        · rename_i d after hleft
          split at h
          · rename_i hquote
            cases h
            exact .inr ⟨left, after, hcs, by rw [hleft, eq_of_beq hquote], rfl⟩
          · split at h
            · cases h
            · cases h
      · cases h

/-- The characters at which an object goes on. -/
def KeyAhead.chars : KeyAhead → List Char
  | .finished rest => rest
  | .key rest => rest

theorem length_lt_of_firstKey (h : firstKey cs = .ok ahead) : ahead.chars.length < cs.length := by
  obtain ⟨rest, hcs, rfl⟩ | ⟨rest, hcs, rfl⟩ := exists_of_firstKey h
  · exact length_lt_of_skipBlank hcs
  · exact length_lt_of_skipBlank hcs

theorem length_lt_of_nextKey (h : nextKey cs = .ok ahead) : ahead.chars.length < cs.length := by
  obtain ⟨rest, hcs, rfl⟩ | ⟨left, rest, hcs, hleft, rfl⟩ := exists_of_nextKey h
  · exact length_lt_of_skipBlank hcs
  · exact Nat.lt_trans (length_lt_of_skipBlank hleft) (length_lt_of_skipBlank hcs)

end

/-! ## The grammar -/

/-- A text leads with a value that holds no others. -/
inductive LeadsWithLeaf : List Char → Json → List Char → Prop
  | constant {c : Char} {cs letters rest : List Char} {v : Json}
      (hc : constant? c = some (letters, v)) (hword : word letters cs = .ok rest) :
      LeadsWithLeaf (c :: cs) v rest
  | negative {cs rest : List Char} {v : Json} (h : Numeral.read false cs = .ok (v, rest)) :
      LeadsWithLeaf ('-' :: cs) v rest
  | number {c : Char} {cs rest : List Char} {v : Json} (hc : Text.isDigit c = true)
      (h : Numeral.read true (c :: cs) = .ok (v, rest)) : LeadsWithLeaf (c :: cs) v rest
  | text {cs rest : List Char} {s : String} (h : Quoted.read cs = .ok (s, rest)) :
      LeadsWithLeaf ('"' :: cs) (.text s) rest

/-- What a text may lead with: a value, the items of an array from after its bracket or from after
an item, and the fields of an object from one of its keys or its end. -/
inductive Phrase where
  | value (cs : List Char) (v : Json)
  | items (cs : List Char) (vs : List Json)
  | moreItems (cs : List Char) (vs : List Json)
  | fields (ahead : KeyAhead) (fs : List (String × Json))

/-- **The grammar**: what a text leads with, at a depth that is left, and what follows. -/
inductive Leads : Nat → Phrase → List Char → Prop
  | leaf {d : Nat} {cs left rest : List Char} {v : Json} (hcs : skipBlank cs = left)
      (h : LeadsWithLeaf left v rest) : Leads d (.value cs v) rest
  | array {d : Nat} {cs left rest : List Char} {vs : List Json} (hcs : skipBlank cs = '[' :: left)
      (h : Leads (d + 1) (.items left vs) rest) : Leads (d + 2) (.value cs (.array vs)) rest
  | object {d : Nat} {cs left rest : List Char} {ahead : KeyAhead} {fs : List (String × Json)}
      (hcs : skipBlank cs = openBrace :: left) (hfirst : firstKey left = .ok ahead)
      (h : Leads (d + 1) (.fields ahead fs) rest) : Leads (d + 2) (.value cs (ofFields fs)) rest
  | noItems {d : Nat} {cs rest : List Char} (hcs : skipBlank cs = ']' :: rest) :
      Leads d (.items cs []) rest
  | items {d : Nat} {cs left rest : List Char} {v : Json} {vs : List Json}
      (hv : Leads d (.value cs v) left) (hvs : Leads d (.moreItems left vs) rest) :
      Leads d (.items cs (v :: vs)) rest
  | endItems {d : Nat} {cs rest : List Char} (hcs : skipBlank cs = ']' :: rest) :
      Leads d (.moreItems cs []) rest
  | nextItem {d : Nat} {cs left after rest : List Char} {v : Json} {vs : List Json}
      (hcs : skipBlank cs = ',' :: left) (hv : Leads d (.value left v) after)
      (hvs : Leads d (.moreItems after vs) rest) : Leads d (.moreItems cs (v :: vs)) rest
  | endFields {d : Nat} {rest : List Char} : Leads d (.fields (.finished rest) []) rest
  | field {d : Nat} {cs left middle after rest : List Char} {k : String} {v : Json}
      {ahead : KeyAhead} {fs : List (String × Json)} (hk : Quoted.read cs = .ok (k, left))
      (hcolon : colon left = .ok middle) (hv : Leads d (.value middle v) after)
      (hnext : nextKey after = .ok ahead) (hfs : Leads d (.fields ahead fs) rest) :
      Leads d (.fields (.key cs) ((k, v) :: fs)) rest

variable {cs left after rest : List Char} {c : Char} {depth n : Nat} {v : Json}
  {vs : List Json} {k : String} {fs : List (String × Json)} {ahead : KeyAhead} {p : Phrase}

/-! ## What is left is shorter -/

/-- The characters that a phrase begins at. -/
def Phrase.chars : Phrase → List Char
  | .value cs _ => cs
  | .items cs _ => cs
  | .moreItems cs _ => cs
  | .fields ahead _ => ahead.chars

theorem length_le_of_word {letters : List Char} (h : word letters cs = .ok rest) :
    rest.length ≤ cs.length := by
  induction letters generalizing cs with
  | nil =>
    cases h
    exact Nat.le_refl _
  | cons w ws ih =>
    cases cs with
    | nil => cases h
    | cons c cs =>
      rw [word] at h
      split at h
      · exact Nat.le_succ_of_le (ih h)
      · cases h

theorem LeadsWithLeaf.length_lt (h : LeadsWithLeaf cs v rest) : rest.length < cs.length := by
  cases h with
  | constant hc hword => exact Nat.lt_succ_of_le (length_le_of_word hword)
  | negative h =>
    exact Nat.lt_succ_of_lt (length_lt_of_skipNumber (Numeral.skipNumber_of_read h))
  | number hc h => exact length_lt_of_skipNumber (Numeral.skipNumber_of_read h)
  | text h => exact Nat.lt_succ_of_lt (Quoted.length_lt_of_skip (Quoted.skip_of_read h))

/-- A phrase takes one character at least, but for the fields of an object at its end. -/
def Phrase.least : Phrase → Nat
  | .fields _ _ => 0
  | _ => 1

theorem Leads.length_le (h : Leads depth p rest) : rest.length + p.least ≤ p.chars.length := by
  induction h with
  | leaf hcs h =>
    have hlt := h.length_lt
    rw [← hcs] at hlt
    exact Nat.lt_of_lt_of_le hlt (length_skipBlank_le _)
  | array hcs _ ih => exact Nat.le_trans ih (Nat.le_of_lt (length_lt_of_skipBlank hcs))
  | object hcs hfirst _ ih =>
    exact Nat.lt_trans (Nat.lt_of_le_of_lt ih (length_lt_of_firstKey hfirst))
      (length_lt_of_skipBlank hcs)
  | noItems hcs => exact length_lt_of_skipBlank hcs
  | items _ _ ihv ihvs => exact Nat.le_trans ihvs (Nat.le_of_lt ihv)
  | endItems hcs => exact length_lt_of_skipBlank hcs
  | nextItem hcs _ _ ihv ihvs =>
    exact Nat.le_trans ihvs (Nat.le_of_lt (Nat.lt_trans ihv (length_lt_of_skipBlank hcs)))
  | endFields => exact Nat.le_refl _
  | field hk hcolon _ hnext _ ihv ihfs =>
    have hkey := Quoted.length_lt_of_skip (Quoted.skip_of_read hk)
    have hmark := length_lt_of_skipBlank (skipBlank_of_colon hcolon)
    have hahead := length_lt_of_nextKey hnext
    simp only [Phrase.least, Phrase.chars] at ihv ihfs
    simp only [Phrase.least, Phrase.chars, KeyAhead.chars]
    omega

/-- A phrase may take two steps for each of its characters; a value takes one less, fields take one
more. -/
def Phrase.IsWithin (n : Nat) (rest : List Char) : Phrase → Prop
  | .value cs _ => 2 * cs.length ≤ n + 1 + 2 * rest.length
  | .items cs _ => 2 * cs.length ≤ n + 2 * rest.length
  | .moreItems cs _ => 2 * cs.length ≤ n + 2 * rest.length
  | .fields ahead _ => 2 * ahead.chars.length + 1 ≤ n + 2 * rest.length

namespace Phrase.IsWithin

theorem pos (h : Leads depth p rest) (hn : p.IsWithin n rest) : n ≠ 0 := by
  have hle := h.length_le
  cases p <;> simp only [IsWithin, least, chars] at hn hle <;> omega

theorem array (hcs : skipBlank cs = '[' :: left)
    (hn : (Phrase.value cs v).IsWithin (n + 1) rest) : (Phrase.items left vs).IsWithin n rest := by
  have hlt := length_lt_of_skipBlank hcs
  simp only [IsWithin] at hn ⊢
  omega

theorem object (hcs : skipBlank cs = openBrace :: left) (hfirst : firstKey left = .ok ahead)
    (hn : (Phrase.value cs v).IsWithin (n + 1) rest) :
    (Phrase.fields ahead fs).IsWithin n rest := by
  have hlt := length_lt_of_skipBlank hcs
  have hlt' := length_lt_of_firstKey hfirst
  simp only [IsWithin] at hn ⊢
  omega

theorem items (hv : Leads depth (.value cs v) left) (hvs : Leads depth (.moreItems left vs) rest)
    (hn : (Phrase.items cs (v :: vs)).IsWithin (n + 1) rest) :
    (Phrase.value cs v).IsWithin n left ∧ (Phrase.moreItems left vs).IsWithin n rest := by
  have hle := hv.length_le
  have hle' := hvs.length_le
  simp only [IsWithin, least, chars] at hn hle hle' ⊢
  omega

theorem nextItem (hcs : skipBlank cs = ',' :: left) (hv : Leads depth (.value left v) after)
    (hvs : Leads depth (.moreItems after vs) rest)
    (hn : (Phrase.moreItems cs (v :: vs)).IsWithin (n + 1) rest) :
    (Phrase.value left v).IsWithin n after ∧ (Phrase.moreItems after vs).IsWithin n rest := by
  have hlt := length_lt_of_skipBlank hcs
  have hle := hv.length_le
  have hle' := hvs.length_le
  simp only [IsWithin, least, chars] at hn hle hle' ⊢
  omega

theorem field {middle : List Char} (hk : Quoted.read cs = .ok (k, left))
    (hcolon : colon left = .ok middle) (hv : Leads depth (.value middle v) after)
    (hnext : nextKey after = .ok ahead) (hfs : Leads depth (.fields ahead fs) rest)
    (hn : (Phrase.fields (.key cs) ((k, v) :: fs)).IsWithin (n + 1) rest) :
    (Phrase.value middle v).IsWithin n after ∧ (Phrase.fields ahead fs).IsWithin n rest := by
  have hkey := Quoted.length_lt_of_skip (Quoted.skip_of_read hk)
  have hmark := length_lt_of_skipBlank (skipBlank_of_colon hcolon)
  have hahead := length_lt_of_nextKey hnext
  have hle := hv.length_le
  have hle' := hfs.length_le
  simp only [IsWithin, KeyAhead.chars] at hn
  simp only [IsWithin, least, chars] at hle hle' ⊢
  omega

end Phrase.IsWithin

/-! ## The reader -/

theorem ne_of_isDigit {d : Char} (hc : Text.isDigit c = true) (hd : Text.isDigit d = false) :
    c ≠ d := by
  rintro rfl
  rw [hc] at hd
  cases hd

theorem constant?_of_isDigit (hc : Text.isDigit c = true) : constant? c = none := by
  have hn : c ≠ 'n' := ne_of_isDigit hc (by decide)
  have ht : c ≠ 't' := ne_of_isDigit hc (by decide)
  have hf : c ≠ 'f' := ne_of_isDigit hc (by decide)
  simp [constant?, hn, ht, hf]

/-- What the reader does, with a bound on its steps, where it takes a phrase. -/
def Phrase.Computes (n depth : Nat) (rest : List Char) : Phrase → Prop
  | .value cs v => Json.value n depth cs = .ok (v, rest)
  | .items cs vs => Json.items n depth cs = .ok (vs, rest)
  | .moreItems cs vs => Json.moreItems n depth cs = .ok (vs, rest)
  | .fields ahead fs => Json.fields n depth ahead = .ok (fs, rest)

theorem value_of_leaf (hcs : skipBlank cs = left) (h : LeadsWithLeaf left v rest) :
    value (n + 1) depth cs = .ok (v, rest) := by
  rw [value, hcs]
  cases h with
  | constant hc hword =>
    simp only [hc, hword]
    rfl
  | negative h => exact h
  | number hc h =>
    have hminus := ne_of_isDigit hc (d := '-') (by decide)
    simp only [constant?_of_isDigit hc, beq_iff_eq, hminus, if_false, hc, if_true, h]
  | text h => exact bind_eq_ok_iff.2 ⟨_, h, rfl⟩

theorem value_of_items (hcs : skipBlank cs = '[' :: left)
    (h : items n (depth + 1) left = .ok (vs, rest)) :
    value (n + 1) (depth + 2) cs = .ok (.array vs, rest) := by
  rw [value, hcs]
  exact bind_eq_ok_iff.2 ⟨_, h, rfl⟩

theorem value_of_fields (hcs : skipBlank cs = openBrace :: left) (hfirst : firstKey left = .ok ahead)
    (h : fields n (depth + 1) ahead = .ok (fs, rest)) :
    value (n + 1) (depth + 2) cs = .ok (ofFields fs, rest) := by
  rw [value, hcs]
  exact bind_eq_ok_iff.2 ⟨_, hfirst, bind_eq_ok_iff.2 ⟨_, h, rfl⟩⟩

/-- A value is taken without the blanks before it as well. -/
theorem value_of_skipBlank (hcs : skipBlank cs = c :: left)
    (h : value n depth cs = .ok (v, rest)) : value n depth (c :: left) = .ok (v, rest) := by
  cases n with
  | zero =>
    rw [value] at h
    cases h
  | succ n =>
    rw [value, hcs] at h
    rw [value, skipBlank_idem hcs]
    exact h

/-- No value begins with a closing bracket. -/
theorem Leads.exists_skipBlank (h : Leads depth (.value cs v) rest) :
    ∃ c left, skipBlank cs = c :: left ∧ c ≠ ']' := by
  cases h with
  | leaf hcs h =>
    cases h with
    | constant hc _ =>
      refine ⟨_, _, hcs, ?_⟩
      rintro rfl
      cases hc
    | negative _ => exact ⟨_, _, hcs, by decide⟩
    | number hc _ => exact ⟨_, _, hcs, ne_of_isDigit hc (by decide)⟩
    | text _ => exact ⟨_, _, hcs, by decide⟩
  | array hcs _ => exact ⟨_, _, hcs, by decide⟩
  | object hcs _ _ => exact ⟨_, _, hcs, by decide⟩

theorem items_of_value (hv : Leads depth (.value cs v) left)
    (h : value n depth cs = .ok (v, left)) (hvs : moreItems n depth left = .ok (vs, rest)) :
    items (n + 1) depth cs = .ok (v :: vs, rest) := by
  obtain ⟨c, middle, hcs, hc⟩ := hv.exists_skipBlank
  rw [items, hcs]
  simp only [beq_iff_eq, hc, if_false]
  exact bind_eq_ok_iff.2 ⟨_, value_of_skipBlank hcs h, bind_eq_ok_iff.2 ⟨_, hvs, rfl⟩⟩

theorem moreItems_of_value (hcs : skipBlank cs = ',' :: left)
    (hv : Leads depth (.value left v) after) (h : value n depth left = .ok (v, after))
    (hvs : moreItems n depth after = .ok (vs, rest)) :
    moreItems (n + 1) depth cs = .ok (v :: vs, rest) := by
  obtain ⟨c, middle, hleft, hc⟩ := hv.exists_skipBlank
  have hcomma : (',' == ']') = false := by decide
  rw [moreItems, hcs]
  simp only [hcomma, beq_self_eq_true, if_true, hleft, beq_iff_eq, hc, if_false,
    Bool.false_eq_true]
  exact bind_eq_ok_iff.2 ⟨_, value_of_skipBlank hleft h, bind_eq_ok_iff.2 ⟨_, hvs, rfl⟩⟩

theorem fields_of_value {middle : List Char} (hk : Quoted.read cs = .ok (k, left))
    (hcolon : colon left = .ok middle) (hv : value n depth middle = .ok (v, after))
    (hnext : nextKey after = .ok ahead) (hfs : fields n depth ahead = .ok (fs, rest)) :
    fields (n + 1) depth (.key cs) = .ok ((k, v) :: fs, rest) := by
  simp only [fields, hk, hcolon, hv, hnext, hfs, bind, Except.bind, pure, Except.pure]

/-- **What the grammar has the reader takes**, in as many steps as it may take. -/
theorem Leads.computes (h : Leads depth p rest) (hn : p.IsWithin n rest) :
    p.Computes n depth rest := by
  induction n generalizing depth p rest with
  | zero => exact absurd rfl (hn.pos h)
  | succ n ih =>
    cases h with
    | leaf hcs h => exact value_of_leaf hcs h
    | array hcs h => exact value_of_items hcs (ih h (hn.array hcs))
    | object hcs hfirst h => exact value_of_fields hcs hfirst (ih h (hn.object hcs hfirst))
    | noItems hcs =>
      simp only [Phrase.Computes, Json.items, hcs]
      rfl
    | items hv hvs =>
      obtain ⟨hvalue, hmore⟩ := hn.items hv hvs
      exact items_of_value hv (ih hv hvalue) (ih hvs hmore)
    | endItems hcs =>
      simp only [Phrase.Computes, Json.moreItems, hcs]
      rfl
    | nextItem hcs hv hvs =>
      obtain ⟨hvalue, hmore⟩ := hn.nextItem hcs hv hvs
      exact moreItems_of_value hcs hv (ih hv hvalue) (ih hvs hmore)
    | endFields => simp only [Phrase.Computes, Json.fields]
    | field hk hcolon hv hnext hfs =>
      obtain ⟨hvalue, hmore⟩ := hn.field hk hcolon hv hnext hfs
      exact fields_of_value hk hcolon (ih hv hvalue) hnext (ih hfs hmore)

theorem leaf_of_value (hcs : skipBlank cs = c :: left) (hc : c ≠ '[') (hopen : c ≠ openBrace)
    (h : value (n + 1) depth cs = .ok (v, rest)) : LeadsWithLeaf (c :: left) v rest := by
  rw [value, hcs] at h
  simp only [beq_iff_eq, hc, if_false, toNat_eq_openBrace_iff, hopen] at h
  split at h
  · rename_i letters w hconstant
    obtain ⟨_, hword, h⟩ := bind_eq_ok_iff.1 h
    cases h
    exact .constant hconstant hword
  · split at h
    · rename_i hminus
      rw [hminus]
      exact .negative h
    · split at h
      · rename_i hdigit
        exact .number hdigit h
      · split at h
        · rename_i hquote
          obtain ⟨⟨s, after⟩, hread, h⟩ := bind_eq_ok_iff.1 h
          cases h
          rw [hquote]
          exact .text hread
        · cases h

theorem Leads.of_skipBlank (hcs : skipBlank cs = c :: left)
    (h : Leads depth (.value (c :: left) v) rest) : Leads depth (.value cs v) rest := by
  have hidem := skipBlank_idem hcs
  cases h with
  | leaf hleft h => exact .leaf (hcs.trans (hidem.symm.trans hleft)) h
  | array hleft h => exact .array (hcs.trans (hidem.symm.trans hleft)) h
  | object hleft hfirst h => exact .object (hcs.trans (hidem.symm.trans hleft)) hfirst h

theorem exists_items_of_value (hcs : skipBlank cs = '[' :: left)
    (h : value (n + 1) depth cs = .ok (v, rest)) :
    ∃ d vs, depth = d + 2 ∧ v = .array vs ∧ items n (d + 1) left = .ok (vs, rest) := by
  have hvalue : value (n + 1) depth cs =
      if depth ≤ 1 then .error (.at .tooDeep ('[' :: left))
      else items n (depth - 1) left >>= fun r => pure (.array r.1, r.2) := by
    rw [value, hcs]
    rfl
  rw [hvalue] at h
  split at h
  · cases h
  · rename_i hdepth
    obtain ⟨d, rfl⟩ : ∃ d, depth = d + 2 := ⟨depth - 2, by omega⟩
    obtain ⟨⟨vs, after⟩, hitems, h⟩ := bind_eq_ok_iff.1 h
    cases h
    exact ⟨d, vs, rfl, rfl, hitems⟩

theorem exists_fields_of_value (hcs : skipBlank cs = openBrace :: left)
    (h : value (n + 1) depth cs = .ok (v, rest)) :
    ∃ d ahead fs, depth = d + 2 ∧ v = ofFields fs ∧ firstKey left = .ok ahead ∧
      fields n (d + 1) ahead = .ok (fs, rest) := by
  have hvalue : value (n + 1) depth cs =
      if depth ≤ 1 then .error (.at .tooDeep (openBrace :: left))
      else firstKey left >>= fun ahead =>
        fields n (depth - 1) ahead >>= fun r => pure (ofFields r.1, r.2) := by
    rw [value, hcs]
    rfl
  rw [hvalue] at h
  split at h
  · cases h
  · rename_i hdepth
    obtain ⟨d, rfl⟩ : ∃ d, depth = d + 2 := ⟨depth - 2, by omega⟩
    obtain ⟨ahead, hfirst, h⟩ := bind_eq_ok_iff.1 h
    obtain ⟨⟨fs, after⟩, hfields, h⟩ := bind_eq_ok_iff.1 h
    cases h
    exact ⟨d, ahead, fs, rfl, rfl, hfirst, hfields⟩

/-- The reader goes on with an item, or it is at the end of the items. -/
theorem exists_value_of_items (h : items (n + 1) depth cs = .ok (vs, rest)) :
    skipBlank cs = ']' :: rest ∧ vs = [] ∨
      ∃ c left v after ws, skipBlank cs = c :: left ∧ vs = v :: ws ∧
        value n depth (c :: left) = .ok (v, after) ∧ moreItems n depth after = .ok (ws, rest) := by
  rw [items] at h
  split at h
  · cases h
  · rename_i c left hcs
    split at h
    · rename_i hc
      cases h
      exact .inl ⟨by rw [hcs, eq_of_beq hc], rfl⟩
    · obtain ⟨⟨v, after⟩, hv, h⟩ := bind_eq_ok_iff.1 h
      obtain ⟨⟨ws, after'⟩, hws, h⟩ := bind_eq_ok_iff.1 h
      cases h
      exact .inr ⟨c, left, v, after, ws, hcs, rfl, hv, hws⟩

theorem exists_value_of_moreItems (h : moreItems (n + 1) depth cs = .ok (vs, rest)) :
    skipBlank cs = ']' :: rest ∧ vs = [] ∨
      ∃ middle c left v after ws, skipBlank cs = ',' :: middle ∧ skipBlank middle = c :: left ∧
        vs = v :: ws ∧ value n depth (c :: left) = .ok (v, after) ∧
        moreItems n depth after = .ok (ws, rest) := by
  rw [moreItems] at h
  split at h
  · cases h
  · rename_i c middle hcs
    split at h
    · rename_i hc
      cases h
      exact .inl ⟨by rw [hcs, eq_of_beq hc], rfl⟩
    · split at h
      · rename_i hcomma
        rw [eq_of_beq hcomma] at hcs
        split at h
        · cases h
        · rename_i d left hmiddle
          split at h
          · cases h
          · obtain ⟨⟨v, after⟩, hv, h⟩ := bind_eq_ok_iff.1 h
            obtain ⟨⟨ws, after'⟩, hws, h⟩ := bind_eq_ok_iff.1 h
            cases h
            exact .inr ⟨middle, d, left, v, after, ws, hcs, hmiddle, rfl, hv, hws⟩
      · cases h

/-- **What the reader takes the grammar has.** -/
theorem leads_of_computes (h : p.Computes n depth rest) : Leads depth p rest := by
  induction n generalizing depth p rest with
  | zero =>
    cases p with
    | fields ahead fs => cases ahead <;> (simp only [Phrase.Computes, Json.fields] at h; cases h)
    | value cs v =>
      simp only [Phrase.Computes, Json.value] at h
      cases h
    | items cs vs =>
      simp only [Phrase.Computes, Json.items] at h
      cases h
    | moreItems cs vs =>
      simp only [Phrase.Computes, Json.moreItems] at h
      cases h
  | succ n ih =>
    cases p with
    | value cs v =>
      simp only [Phrase.Computes] at h
      cases hcs : skipBlank cs with
      | nil =>
        rw [value, hcs] at h
        cases h
      | cons c left =>
        by_cases hc : c = '['
        · subst hc
          obtain ⟨d, vs, rfl, rfl, hitems⟩ := exists_items_of_value hcs h
          exact .array hcs (ih hitems)
        · by_cases hopen : c = openBrace
          · subst hopen
            obtain ⟨d, ahead, fs, rfl, rfl, hfirst, hfields⟩ := exists_fields_of_value hcs h
            exact .object hcs hfirst (ih hfields)
          · exact .leaf hcs (leaf_of_value hcs hc hopen h)
    | items cs vs =>
      obtain ⟨hend, rfl⟩ | ⟨c, left, v, after, ws, hcs, rfl, hv, hws⟩ := exists_value_of_items h
      · exact .noItems hend
      · exact .items (.of_skipBlank hcs (ih hv)) (ih hws)
    | moreItems cs vs =>
      obtain ⟨hend, rfl⟩ | ⟨middle, c, left, v, after, ws, hcs, hmiddle, rfl, hv, hws⟩ :=
        exists_value_of_moreItems h
      · exact .endItems hend
      · exact .nextItem hcs (.of_skipBlank hmiddle (ih hv)) (ih hws)
    | fields ahead fs =>
      cases ahead with
      | finished cs =>
        simp only [Phrase.Computes, Json.fields, Except.ok.injEq, Prod.mk.injEq] at h
        obtain ⟨rfl, rfl⟩ := h
        exact .endFields
      | key cs =>
        simp only [Phrase.Computes, Json.fields] at h
        obtain ⟨⟨k, left⟩, hk, h⟩ := bind_eq_ok_iff.1 h
        obtain ⟨middle, hcolon, h⟩ := bind_eq_ok_iff.1 h
        obtain ⟨⟨v, after⟩, hv, h⟩ := bind_eq_ok_iff.1 h
        obtain ⟨ahead, hnext, h⟩ := bind_eq_ok_iff.1 h
        obtain ⟨⟨more, after'⟩, hmore, h⟩ := bind_eq_ok_iff.1 h
        cases h
        exact .field hk hcolon (ih hv) hnext (ih hmore)

/-! ## Passing over -/

/-- Passes over what follows an opening bracket. -/
def skipAfterBracket (n : Nat) (cs : List Char) : Except Stop (List Char) :=
  match skipBlank cs with
  | [] => .error (.before .eofList [])
  | c :: rest => if c == ']' then .ok rest else skipItems n (c :: rest)

/-- Passes over what follows an item. -/
def skipAfterItem (n : Nat) (cs : List Char) : Except Stop (List Char) :=
  match skipBlank cs with
  | [] => .error (.before .eofList [])
  | c :: rest =>
    if c == ']' then .ok rest
    else if c == ',' then skipItems n rest
    else .error (.at .expectedItemEnd (c :: rest))

/-- Passes over what follows an opening brace. -/
def skipAfterBrace (n : Nat) (cs : List Char) : Except Stop (List Char) :=
  match skipBlank cs with
  | [] => .error (.before .eofObject [])
  | c :: rest => if c.toNat == 0x7d then .ok rest else skipFields n (c :: rest)

/-- Passes over what follows a field. -/
def skipAfterField (n : Nat) (cs : List Char) : Except Stop (List Char) :=
  match skipBlank cs with
  | [] => .error (.before .eofObject [])
  | c :: rest =>
    if c.toNat == 0x7d then .ok rest
    else if c == ',' then skipFields n rest
    else .error (.at .expectedFieldEnd (c :: rest))

/-- What the reader that passes over values does, with a bound on its steps, where it passes over a
phrase. -/
def Phrase.Skips (n : Nat) (rest : List Char) : Phrase → Prop
  | .value cs _ => skipValue n cs = .ok rest
  | .items cs _ => skipAfterBracket n cs = .ok rest
  | .moreItems cs _ => skipAfterItem n cs = .ok rest
  | .fields (.finished cs) _ => cs = rest
  | .fields (.key cs) _ => ∀ before, skipBlank before = '"' :: cs → skipFields n before = .ok rest

theorem skipValue_of_leaf (hcs : skipBlank cs = left) (h : LeadsWithLeaf left v rest) :
    skipValue (n + 1) cs = .ok rest := by
  rw [skipValue, hcs]
  cases h with
  | constant hc hword => simp only [hc, hword]
  | negative h => exact Numeral.skipNumber_of_read h
  | number hc h =>
    have hminus := ne_of_isDigit hc (d := '-') (by decide)
    simp only [constant?_of_isDigit hc, beq_iff_eq, hminus, if_false, hc, if_true,
      Numeral.skipNumber_of_read h]
  | text h => exact Quoted.skip_of_read h

theorem skipValue_of_skipBlank (hcs : skipBlank cs = c :: left) (h : skipValue n cs = .ok rest) :
    skipValue n (c :: left) = .ok rest := by
  cases n with
  | zero =>
    rw [skipValue] at h
    cases h
  | succ n =>
    rw [skipValue, hcs] at h
    rw [skipValue, skipBlank_idem hcs]
    exact h

theorem skipItems_of_value (h : skipValue n cs = .ok left)
    (hmore : skipAfterItem n left = .ok rest) : skipItems (n + 1) cs = .ok rest := by
  rw [skipItems]
  exact bind_eq_ok_iff.2 ⟨left, h, hmore⟩

theorem skipFields_of_value {middle : List Char} (hcs : skipBlank cs = '"' :: left)
    (hk : Quoted.read left = .ok (k, middle)) (hcolon : colon middle = .ok after)
    {last : List Char} (h : skipValue n after = .ok last)
    (hmore : skipAfterField n last = .ok rest) : skipFields (n + 1) cs = .ok rest := by
  have hkey : skipKey cs = .ok after := by
    rw [skipKey, hcs]
    exact bind_eq_ok_iff.2 ⟨middle, Quoted.skip_of_read hk, hcolon⟩
  rw [skipFields]
  exact bind_eq_ok_iff.2 ⟨after, hkey, bind_eq_ok_iff.2 ⟨last, h, hmore⟩⟩

theorem skipAfterBrace_of_firstKey (hfirst : firstKey cs = .ok ahead)
    (h : (Phrase.fields ahead fs).Skips n rest) : skipAfterBrace n cs = .ok rest := by
  unfold skipAfterBrace
  obtain ⟨left, hcs, rfl⟩ | ⟨left, hcs, rfl⟩ := exists_of_firstKey hfirst
  · rw [hcs, show left = rest from h]
    rfl
  · rw [hcs]
    exact h _ (skipBlank_idem hcs)

theorem skipAfterField_of_nextKey (hnext : nextKey cs = .ok ahead)
    (h : (Phrase.fields ahead fs).Skips n rest) : skipAfterField n cs = .ok rest := by
  unfold skipAfterField
  obtain ⟨left, hcs, rfl⟩ | ⟨middle, left, hcs, hmiddle, rfl⟩ := exists_of_nextKey hnext
  · rw [hcs, show left = rest from h]
    rfl
  · rw [hcs]
    exact h _ hmiddle

/-- **What the grammar has can be passed over**, in as many steps as it may take. -/
theorem Leads.skips (h : Leads depth p rest) (hn : p.IsWithin n rest) : p.Skips n rest := by
  induction n generalizing depth p rest with
  | zero => exact absurd rfl (hn.pos h)
  | succ n ih =>
    cases h with
    | leaf hcs h => exact skipValue_of_leaf hcs h
    | array hcs h =>
      have hitems := ih h (hn.array hcs)
      simp only [Phrase.Skips]
      rw [skipValue, hcs]
      exact hitems
    | object hcs hfirst h =>
      have hfields := ih h (hn.object hcs hfirst)
      simp only [Phrase.Skips]
      rw [skipValue, hcs]
      exact skipAfterBrace_of_firstKey hfirst hfields
    | noItems hcs =>
      simp only [Phrase.Skips, skipAfterBracket, hcs]
      rfl
    | items hv hvs =>
      obtain ⟨hvalue, hmore⟩ := hn.items hv hvs
      obtain ⟨c, middle, hcs, hc⟩ := hv.exists_skipBlank
      simp only [Phrase.Skips, skipAfterBracket, hcs, beq_iff_eq, hc, if_false]
      exact skipItems_of_value (skipValue_of_skipBlank hcs (ih hv hvalue)) (ih hvs hmore)
    | endItems hcs =>
      simp only [Phrase.Skips, skipAfterItem, hcs]
      rfl
    | nextItem hcs hv hvs =>
      obtain ⟨hvalue, hmore⟩ := hn.nextItem hcs hv hvs
      simp only [Phrase.Skips, skipAfterItem, hcs]
      exact skipItems_of_value (ih hv hvalue) (ih hvs hmore)
    | endFields => simp only [Phrase.Skips]
    | field hk hcolon hv hnext hfs =>
      obtain ⟨hvalue, hmore⟩ := hn.field hk hcolon hv hnext hfs
      intro before hbefore
      exact skipFields_of_value hbefore hk hcolon (ih hv hvalue)
        (skipAfterField_of_nextKey hnext (ih hfs hmore))

/-! ## Whole texts -/

theorem ended_eq_ok_iff : ended cs = .ok () ↔ skipBlank cs = [] := by
  unfold ended
  cases skipBlank cs with
  | nil => simp
  | cons c left => simp

/-- **A text is read** as the value that it leads with, where nothing but blanks follows. -/
theorem parse_eq_ok_iff {s : String} : parse s = .ok v ↔
    ∃ rest, Leads depthLimit (.value s.toList v) rest ∧ skipBlank rest = [] := by
  unfold parse parseChars
  constructor
  · intro h
    split at h
    · rename_i w hread
      cases h
      obtain ⟨⟨v, rest⟩, hvalue, hread⟩ := bind_eq_ok_iff.1 hread
      obtain ⟨_, hended, hread⟩ := bind_eq_ok_iff.1 hread
      cases hread
      exact ⟨rest, leads_of_computes hvalue, ended_eq_ok_iff.1 hended⟩
    · cases h
  · rintro ⟨rest, hleads, hrest⟩
    have hvalue : value (stepBound s.toList) depthLimit s.toList = .ok (v, rest) := by
      refine hleads.computes ?_
      simp only [Phrase.IsWithin, stepBound]
      omega
    have hended := ended_eq_ok_iff.2 hrest
    simp only [hvalue, hended, bind, Except.bind, pure, Except.pure]

end SalesLedger.Json
