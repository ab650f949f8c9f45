import SalesLedger.Parameters.Direct
import SalesLedger.Proofs.JsonGrammar

/-!
# Two readers of parameter sets

A parameter set can be read from a JSON value or straight from a text, where unknown fields are
passed over and their values are never built. On the text of an object in which no known key is
repeated the two agree: `ofText_of_parse`. Where one is repeated the second refuses the text:
`ofText_of_repeated`.

* `parse_eq_object_iff`: an object is read from the texts that write its fields.
* `readFields_eq_ok`: what the second reader keeps of the fields that are written.
-/

namespace SalesLedger

variable {cs rest : List Char} {s : String} {ahead : Json.KeyAhead} {key : String}
  {fs gs found : List (String × Json)} {depth n : Nat} {v : Json}

namespace Json

/-! ## Objects as they are written -/

/-- A text writes fields, in their order and with all that are repeated: it is one object of these
fields. -/
def IsWritten (s : String) (fs : List (String × Json)) : Prop :=
  ∃ left ahead rest, skipBlank s.toList = openBrace :: left ∧ firstKey left = .ok ahead ∧
    Leads (depthLimit - 1) (.fields ahead fs) rest ∧ skipBlank rest = []

theorem LeadsWithLeaf.ne_object {o : Fields} (h : LeadsWithLeaf cs v rest) : v ≠ .object o := by
  rintro rfl
  cases h with
  | @constant c _ _ _ _ hc _ =>
    unfold constant? at hc
    split at hc
    · cases hc
    · split at hc
      · cases hc
      · split at hc <;> cases hc
  | negative h => cases Numeral.isSome_of_read h
  | number _ h => cases Numeral.isSome_of_read h

/-- **An object is read** from a text just if the text writes its fields. -/
theorem parse_eq_object_iff {o : Fields} :
    parse s = .ok (.object o) ↔ ∃ fs, IsWritten s fs ∧ o = Fields.ofList fs := by
  rw [parse_eq_ok_iff]
  constructor
  · rintro ⟨rest, hleads, hrest⟩
    cases hleads with
    | leaf hcs h => exact absurd rfl h.ne_object
    | @object _ _ left _ ahead fs hcs hfirst h =>
      exact ⟨fs, ⟨left, ahead, rest, hcs, hfirst, h, hrest⟩, rfl⟩
  · rintro ⟨fs, ⟨left, ahead, rest, hcs, hfirst, h, hrest⟩, rfl⟩
    exact ⟨rest, .object hcs hfirst h, hrest⟩

/-- The fields that a text writes. -/
def written? (s : String) : Option (List (String × Json)) :=
  match skipBlank s.toList with
  | [] => none
  | c :: left =>
    if c = openBrace then
      match firstKey left >>= fields (stepBound left) (depthLimit - 1) with
      | .ok (fs, rest) => if skipBlank rest = [] then some fs else none
      | .error _ => none
    else none

theorem written?_eq_some_iff : written? s = some fs ↔ IsWritten s fs := by
  unfold written?
  constructor
  · intro h
    split at h
    · cases h
    · rename_i c left hcs
      split at h
      · rename_i hc
        split at h
        · rename_i gs rest hread
          split at h
          · rename_i hrest
            cases h
            obtain ⟨ahead, hfirst, hfields⟩ := bind_eq_ok_iff.1 hread
            exact ⟨left, ahead, rest, hc ▸ hcs, hfirst, leads_of_computes hfields, hrest⟩
          · cases h
        · cases h
      · cases h
  · rintro ⟨left, ahead, rest, hcs, hfirst, h, hrest⟩
    have hlt := length_lt_of_firstKey hfirst
    have hfields : fields (stepBound left) (depthLimit - 1) ahead = .ok (fs, rest) :=
      h.computes (by
        simp only [Phrase.IsWithin, stepBound]
        omega)
    have hread : firstKey left >>= fields (stepBound left) (depthLimit - 1) = .ok (fs, rest) :=
      bind_eq_ok_iff.2 ⟨ahead, hfirst, hfields⟩
    simp only [hcs, if_true, hread, hrest]

/-- A text writes no two lists of fields. -/
theorem IsWritten.unique (h : IsWritten s fs) (h' : IsWritten s gs) : fs = gs := by
  rw [← written?_eq_some_iff] at h h'
  exact Option.some.inj (h.symm.trans h')

theorem Leads.length_fields_le (h : Leads depth (.fields ahead fs) rest) :
    fs.length ≤ ahead.chars.length := by
  induction fs generalizing ahead with
  | nil => exact Nat.zero_le _
  | cons f fs ih =>
    cases h with
    | field hk hcolon hv hnext hfs =>
      have hkey := Quoted.length_lt_of_skip (Quoted.skip_of_read hk)
      have hmark := length_lt_of_skipBlank (skipBlank_of_colon hcolon)
      have hahead := length_lt_of_nextKey hnext
      have hle := hv.length_le
      have hle' := ih hfs
      simp only [Phrase.least, Phrase.chars] at hle
      simp only [KeyAhead.chars, List.length_cons]
      omega

/-- Of fields with one key the last is kept. -/
theorem Fields.get?_ofList (key : String) (fs : List (String × Json)) :
    (Fields.ofList fs).get? key = fs.reverse.lookup key := by
  rw [ofList, ← List.foldr_reverse]
  induction fs.reverse with
  | nil => rfl
  | cons f fs ih =>
    obtain ⟨k, v⟩ := f
    rw [List.foldr_cons, List.lookup_cons]
    by_cases hk : key = k
    · rw [hk, get?_put_self, beq_self_eq_true]
    · rw [get?_put_of_ne hk, ih, beq_false_of_ne hk]

end Json

namespace ParameterSet

open Json

/-! ## Known fields -/

/-- Whether a field is one of a parameter set. -/
def isKnown (f : String × Json) : Bool := keys.contains f.1

/-- No known key is written twice. -/
def KnownOnce (fs : List (String × Json)) : Prop :=
  ∀ key ∈ keys, (fs.map Prod.fst).count key ≤ 1

theorem lookup_filter_isKnown (hkey : key ∈ keys) (fs : List (String × Json)) :
    (fs.filter isKnown).lookup key = fs.lookup key := by
  induction fs with
  | nil => rfl
  | cons f fs ih =>
    obtain ⟨k, v⟩ := f
    by_cases hf : isKnown (k, v) = true
    · rw [List.filter_cons_of_pos hf, List.lookup_cons, List.lookup_cons, ih]
    · have hne : key ≠ k := by
        rintro rfl
        exact hf (List.contains_iff_mem.2 hkey)
      rw [List.filter_cons_of_neg hf, ih, List.lookup_cons, beq_false_of_ne hne]

theorem lookup_isSome_iff_count :
    (found.lookup key).isSome = true ↔ 0 < (found.map Prod.fst).count key := by
  simp only [List.lookup_isSome_iff, List.count_pos_iff, List.mem_map, beq_iff_eq]
  constructor
  · rintro ⟨f, hf, hkey⟩
    exact ⟨f, hf, hkey.symm⟩
  · rintro ⟨f, hf, hkey⟩
    exact ⟨f, hf, hkey.symm⟩

/-! ## The second reader -/

section

variable {left middle after : List Char} {k : String} {ahead' : KeyAhead}

theorem readFields_known (hk : Quoted.read cs = .ok (k, left)) (hcolon : colon left = .ok middle)
    (hv : Leads (depthLimit - 1) (.value middle v) after) (hnext : nextKey after = .ok ahead')
    (hknown : isKnown (k, v) = true) (hnew : ¬ (found.lookup k).isSome = true) :
    readFields (n + 1) found (.key cs) = readFields n ((k, v) :: found) ahead' := by
  have hmark := length_lt_of_skipBlank (skipBlank_of_colon hcolon)
  have hvalue : value (stepBound left) (depthLimit - 1) middle = .ok (v, after) :=
    hv.computes (by
      simp only [Phrase.IsWithin, stepBound]
      omega)
  have hknown : keys.contains k = true := hknown
  simp only [readFields, hk, hknown, hnew, hcolon, hvalue, hnext, bind, Except.bind, if_true]
  rfl

/-- The value of an unknown field is passed over. -/
theorem readFields_unknown (hk : Quoted.read cs = .ok (k, left)) (hcolon : colon left = .ok middle)
    (hv : Leads (depthLimit - 1) (.value middle v) after) (hnext : nextKey after = .ok ahead')
    (hknown : ¬ isKnown (k, v) = true) :
    readFields (n + 1) found (.key cs) = readFields n found ahead' := by
  have hskip : skipValue (stepBound middle) middle = .ok after :=
    hv.skips (by
      simp only [Phrase.IsWithin, stepBound]
      omega)
  have hknown : ¬ keys.contains k = true := hknown
  simp only [readFields, hk, hknown, hcolon, hskip, hnext, bind, Except.bind, Bool.false_eq_true,
    if_false]

theorem readFields_repeated (hk : Quoted.read cs = .ok (k, left)) (hknown : isKnown (k, v) = true)
    (hfound : (found.lookup k).isSome = true) :
    readFields (n + 1) found (.key cs) =
      .error (.before (.duplicateField k) (afterRepeated left)) := by
  have hknown : keys.contains k = true := hknown
  simp only [readFields, hk, hknown, hfound, bind, Except.bind, if_true]
  rfl

end

/-- **What is kept of the fields that are written**: the known ones, the last first, as long as none
of them was there before. -/
theorem readFields_eq_ok (found : List (String × Json))
    (h : Leads (depthLimit - 1) (.fields ahead fs) rest) (hn : fs.length ≤ n)
    (honce : ∀ key ∈ keys, (fs.map Prod.fst).count key + (found.map Prod.fst).count key ≤ 1) :
    readFields n found ahead = .ok ((fs.filter isKnown).reverse ++ found, rest) := by
  induction fs generalizing ahead found n with
  | nil =>
    cases h
    rw [readFields]
    rfl
  | cons f fs ih =>
    cases h with
    | @field _ cs left middle after _ k v ahead' _ hk hcolon hv hnext hfs =>
      obtain ⟨n, rfl⟩ : ∃ m, n = m + 1 := ⟨n - 1, by rw [List.length_cons] at hn; omega⟩
      have hn : fs.length ≤ n := Nat.le_of_succ_le_succ hn
      simp only [List.map_cons, List.count_cons] at honce
      by_cases hknown : isKnown (k, v) = true
      · have hnew : ¬ (found.lookup k).isSome = true := by
          have hk := honce k (List.contains_iff_mem.1 hknown)
          rw [beq_self_eq_true, if_pos rfl] at hk
          rw [lookup_isSome_iff_count]
          omega
        rw [readFields_known hk hcolon hv hnext hknown hnew, List.filter_cons_of_pos hknown,
          List.reverse_cons, List.append_assoc]
        refine ih _ hfs hn fun key hkey => ?_
        have hk := honce key hkey
        simp only [List.map_cons, List.count_cons]
        omega
      · rw [readFields_unknown hk hcolon hv hnext hknown, List.filter_cons_of_neg hknown]
        refine ih _ hfs hn fun key hkey => ?_
        have hk := honce key hkey
        omega

/-- A known field that was there before stops the second reader. -/
theorem readFields_eq_error (found : List (String × Json))
    (h : Leads (depthLimit - 1) (.fields ahead fs) rest)
    (hn : fs.length ≤ n) (hfound : KnownOnce found)
    (htwice : ∃ key ∈ keys, 1 < (fs.map Prod.fst).count key + (found.map Prod.fst).count key) :
    ∃ key ∈ keys, ∃ left,
      readFields n found ahead = .error (.before (.duplicateField key) left) := by
  induction fs generalizing ahead found n with
  | nil =>
    obtain ⟨key, hkey, htwice⟩ := htwice
    have honce := hfound key hkey
    rw [List.map_nil, List.count_nil] at htwice
    omega
  | cons f fs ih =>
    cases h with
    | @field _ cs left middle after _ k v ahead' _ hk hcolon hv hnext hfs =>
      obtain ⟨n, rfl⟩ : ∃ m, n = m + 1 := ⟨n - 1, by rw [List.length_cons] at hn; omega⟩
      have hn : fs.length ≤ n := Nat.le_of_succ_le_succ hn
      obtain ⟨key, hkey, htwice⟩ := htwice
      simp only [List.map_cons, List.count_cons] at htwice
      by_cases hknown : isKnown (k, v) = true
      · by_cases hthere : (found.lookup k).isSome = true
        · exact ⟨k, List.contains_iff_mem.1 hknown, _, readFields_repeated hk hknown hthere⟩
        · rw [readFields_known hk hcolon hv hnext hknown hthere]
          refine ih _ hfs hn (fun other hother => ?_) ⟨key, hkey, ?_⟩
          · have honce := hfound other hother
            rw [lookup_isSome_iff_count] at hthere
            simp only [List.map_cons, List.count_cons]
            split
            · rename_i heq
              rw [eq_of_beq heq] at hthere
              omega
            · omega
          · simp only [List.map_cons, List.count_cons]
            omega
      · have hne : (k == key) = false := by
          rw [beq_eq_false_iff_ne]
          rintro rfl
          exact hknown (List.contains_iff_mem.2 hkey)
        rw [readFields_unknown hk hcolon hv hnext hknown]
        refine ih _ hfs hn hfound ⟨key, hkey, ?_⟩
        rw [hne, if_neg Bool.false_ne_true] at htwice
        exact htwice

/-! ## Whole texts -/

theorem readValue_of_brace {left : List Char} (hcs : skipBlank cs = openBrace :: left)
    (hfirst : firstKey left = .ok ahead) : readValue cs =
      readFields (cs.length + 1) [] ahead >>= fun r =>
        pure (ofValues fun key => r.1.lookup key, r.2) := by
  unfold readValue
  rw [hcs]
  simp only [hfirst, bind, Except.bind]
  rfl

theorem length_le_of_brace {left : List Char} (hcs : skipBlank cs = openBrace :: left)
    (hfirst : firstKey left = .ok ahead) (h : Leads depth (.fields ahead fs) rest) :
    fs.length ≤ cs.length + 1 := by
  have hlt := length_lt_of_skipBlank hcs
  have hlt' := length_lt_of_firstKey hfirst
  have hle := h.length_fields_le
  omega

/-- **The two readers agree** on every text that is read as an object: its fields are written in the
text, and where no known key is written twice, the set that is read straight from the text is the
set of the object. -/
theorem ofText_of_parse {o : Fields} (h : parse s = .ok (.object o)) :
    ∃ fs, IsWritten s fs ∧ o = Fields.ofList fs ∧
      (KnownOnce fs → ofText s = .ok (ofJson (.object o))) := by
  obtain ⟨fs, hwritten, rfl⟩ := parse_eq_object_iff.1 h
  refine ⟨fs, hwritten, rfl, fun honce => ?_⟩
  obtain ⟨left, ahead, rest, hcs, hfirst, hleads, hrest⟩ := hwritten
  have hread := readFields_eq_ok [] hleads (length_le_of_brace hcs hfirst hleads) honce
  have hsame : (ofValues fun key => ((fs.filter isKnown).reverse ++ []).lookup key) =
      ofValues fun key => (Fields.ofList fs).get? key := by
    refine ofValues_congr fun key hkey => ?_
    rw [List.append_nil, ← List.filter_reverse, lookup_filter_isKnown hkey, Fields.get?_ofList]
  have hended := ended_eq_ok_iff.2 hrest
  simp only [ofText, ofJson, readValue_of_brace hcs hfirst, hread, hended, hsame, bind,
    Except.bind, pure, Except.pure]

/-- A request with a key spelled by escapes, nulls, and unknown fields of any shape. -/
def looseRequest : String :=
  " \x7b\"x_axi\\u0073\" : \" item \", \"note\": [1, \x7b\"limit\": []\x7d, \"\\ud83d\\ude00\"], " ++
    "\"limit\": \"3\", \"note\": null, \"filter_value\": 1.50e1, \"sort_by\": null\x7d\n"

/-- What is asked for by it. -/
def looselyRequested : ParameterSet :=
  { empty with xAxis := some "item", filterValue := some (.real 15), limit := some 3 }

theorem ofText_of_parse_loose : ∃ o, parse looseRequest = .ok (.object o) ∧
    ofJson (.object o) = looselyRequested ∧ ofText looseRequest = .ok looselyRequested := by
  have hread : (parse looseRequest).toOption.map ofJson = some looselyRequested := by
    decide +kernel
  have hkeys : (written? looseRequest).map (List.map Prod.fst) =
      some ["x_axis", "note", "limit", "note", "filter_value", "sort_by"] := by decide +kernel
  have hempty : empty ≠ looselyRequested := by decide +kernel
  cases hparse : parse looseRequest with
  | error e =>
    rw [hparse] at hread
    cases hread
  | ok v =>
    rw [hparse] at hread
    replace hread : ofJson v = looselyRequested := Option.some.inj hread
    cases v with
    | object o =>
      obtain ⟨fs, hwritten, -, hsame⟩ := ofText_of_parse hparse
      rw [written?_eq_some_iff.2 hwritten] at hkeys
      have honce : KnownOnce fs := by
        intro key hkey
        rw [show fs.map Prod.fst = _ from Option.some.inj hkeys]
        revert key
        decide
      exact ⟨o, rfl, hread, hread ▸ hsame honce⟩
    | _ => exact absurd hread hempty

/-- A text in which a known key is written twice is no parameter set to the second reader, which
names such a key. -/
theorem ofText_of_repeated (h : IsWritten s fs) (htwice : ¬ KnownOnce fs) :
    ∃ key ∈ keys, ∃ place, ofText s = .error ⟨.duplicateField key, place⟩ := by
  obtain ⟨left, ahead, rest, hcs, hfirst, hleads, -⟩ := h
  have htwice : ∃ key ∈ keys, 1 < (fs.map Prod.fst).count key := by
    simpa [KnownOnce] using htwice
  obtain ⟨key, hkey, after, hread⟩ := readFields_eq_error [] hleads
    (length_le_of_brace hcs hfirst hleads) (fun _ _ => Nat.zero_le _) htwice
  refine ⟨key, hkey, ?_⟩
  simp only [ofText, readValue_of_brace hcs hfirst, hread, bind, Except.bind]
  exact ⟨_, rfl⟩

end ParameterSet

end SalesLedger
