import SalesLedger.Proofs.DirectReading
import SalesLedger.Proofs.FloatProducts
import SalesLedger.Proofs.JsonWriting
import SalesLedger.Proofs.Limits
import SalesLedger.Proofs.OwnNames
import SalesLedger.Proofs.PeriodSpelling
import SalesLedger.Proofs.Sorting

/-!
# Parameter sets in normal form

What is read of a JSON value is a set in normal form, and the sets in normal form are just those
that read back from how they are written: `ofJson_canonical`. Each field depends on the value under
its own key alone, so whatever becomes of that value changes no other field.

* `Text.trim_eq_self_iff`: which texts trimming leaves as they are.
* `isNormal_ofJson`, `ofJson_toJson`: the normal form is reached, and it is read back.
* `agreesOutside_ofValues`: one key, one field.
* `isHeld_toJson`: what is written is a value that a program can hold.
-/

namespace SalesLedger

/-! ## Trimmed texts -/

namespace Text

/-- No blank stands at either end of a text. -/
def IsTrimmed (s : String) : Prop :=
  (∀ c ∈ s.toList.head?, isBlank c = false) ∧ ∀ c ∈ s.toList.getLast?, isBlank c = false

theorem dropTrailingBlanks_eq_self_iff {cs : List Char} :
    dropTrailingBlanks cs = cs ↔ ∀ c ∈ cs.getLast?, isBlank c = false := by
  refine ⟨fun h c hc => ?_, dropTrailingBlanks_of_last⟩
  obtain ⟨ds, rfl⟩ := List.getLast?_eq_some_iff.1 hc
  rw [Bool.eq_false_iff]
  intro hblank
  -- a blank at the end would be dropped, and nothing comes in its place
  rw [dropTrailingBlanks_append_blank (List.forall_mem_singleton.2 hblank)] at h
  have hle := (dropTrailingBlanks_sublist ds).length_le
  rw [h, List.length_append, List.length_singleton] at hle
  omega

theorem skipBlanks_eq_self_iff {cs : List Char} :
    skipBlanks cs = cs ↔ ∀ c ∈ cs.head?, isBlank c = false := by
  cases cs with
  | nil => simp [skipBlanks]
  | cons c cs =>
    have hhead : (∀ d ∈ (c :: cs).head?, isBlank d = false) ↔ isBlank c = false := by simp
    rw [skipBlanks, List.dropWhile_eq_self_iff, hhead]
    simp

/-- **Trimming leaves a text as it is** just if no blank stands at its ends. -/
theorem trim_eq_self_iff {s : String} : trim s = s ↔ IsTrimmed s := by
  have hchars : trim s = s ↔ trimChars s.toList = s.toList := by
    rw [trim, ← String.toList_inj, String.toList_ofList]
  rw [hchars, IsTrimmed, ← skipBlanks_eq_self_iff, ← dropTrailingBlanks_eq_self_iff, trimChars]
  constructor
  · intro h
    have hskip : skipBlanks s.toList = s.toList := by
      rw [← h, skipBlanks_dropTrailingBlanks]
    exact ⟨hskip, by rwa [hskip] at h⟩
  · rintro ⟨hskip, hdrop⟩
    rw [hskip, hdrop]

end Text

/-! ## Fields -/

namespace Json.Fields

/-- The fields without the one under a key. -/
def erase (key : String) (fields : Fields) : Fields :=
  fields.filter fun f => f.1 ≠ key

theorem get?_erase_of_ne {key other : String} (h : other ≠ key) (fields : Fields) :
    (fields.erase key).get? other = fields.get? other := by
  induction fields with
  | nil => rfl
  | cons f rest ih =>
    obtain ⟨k, v⟩ := f
    unfold erase at ih ⊢
    by_cases hk : k = key
    · rw [List.filter_cons_of_neg (by simpa using hk), ih, get?,
        if_neg (hk.trans_ne h.symm)]
    · rw [List.filter_cons_of_pos (by simpa using hk), get?, get?, ih]

end Json.Fields

/-! ## Values of fields -/

/-- A name as it is kept: there is something in it, and no blank at its ends. -/
def IsName (s : String) : Prop :=
  s ≠ "" ∧ Text.IsTrimmed s

theorem isName_of_nameOf? {v : Json} {s : String} (h : nameOf? v = some s) : IsName s := by
  refine ⟨?_, Text.trim_eq_self_iff.1 (trim_nameOf? h)⟩
  unfold nameOf? at h
  split at h
  · split at h
    · cases h
    · rename_i hne
      exact Option.some.inj h ▸ hne
  · cases h

theorem nameOf?_ofText? {o : Option String} (h : ∀ s ∈ o, IsName s) :
    nameOf? (Json.ofText? o) = o := by
  cases o with
  | none => rfl
  | some s =>
    obtain ⟨hne, htrim⟩ := h s rfl
    rw [Json.ofText?, nameOf?, Text.trim_eq_self_iff.2 htrim, if_neg hne]

theorem aggregationOf_word (a : Aggregation) : aggregationOf (some (.text a.word)) = a := by
  simp [aggregationOf, Json.text?, Aggregation.parse_word]

theorem sortOrderOf_word (o : SortOrder) : sortOrderOf (some (.text o.word)) = o := by
  simp [sortOrderOf, Json.text?, SortOrder.parse_word]

theorem FilterValue.fits_of_ofJson? {v : Json} {n : Int} (h : ofJson? v = some (.integer n)) :
    Fits64 n := by
  cases v with
  | integer m =>
    rw [ofJson?] at h
    split at h
    · rename_i hfits
      cases h
      exact hfits
    · cases h
  | _ => cases h

theorem FilterValue.ofJson?_filterJson {o : Option FilterValue}
    (h : ∀ n, o = some (.integer n) → Fits64 n) :
    ofJson? (ParameterSet.filterJson o) = o := by
  cases o with
  | none => rfl
  | some value =>
    cases value with
    | integer n => exact if_pos (h n rfl)
    | _ => rfl

theorem limitOf?_le {v : Json} {n : Nat} (h : limitOf? v = some n) : n ≤ largestLimit := by
  rcases limitOf?_eq_some_iff.1 h with ⟨-, hn⟩ | ⟨-, rfl⟩
  · exact hn
  · exact Nat.le_refl _

namespace ParameterSet

/-! ## The normal form -/

/-- A set in normal form: its names are trimmed and there is something in them, and its whole
numbers fit their width. -/
structure IsNormal (p : ParameterSet) : Prop where
  xAxis : ∀ s ∈ p.xAxis, IsName s
  yAxis : ∀ s ∈ p.yAxis, IsName s
  filterColumn : ∀ s ∈ p.filterColumn, IsName s
  filterValue : ∀ n, p.filterValue = some (.integer n) → Fits64 n
  sortBy : ∀ s ∈ p.sortBy, IsName s
  limit : ∀ n ∈ p.limit, n ≤ largestLimit
  timePeriod : ∀ s ∈ p.timePeriod, IsName s

theorem isName_of_bind {v : Option Json} : ∀ s ∈ v.bind nameOf?, IsName s := by
  intro s hs
  obtain ⟨w, -, hw⟩ := Option.bind_eq_some_iff.1 hs
  exact isName_of_nameOf? hw

theorem isNormal_ofValues (value? : String → Option Json) : (ofValues value?).IsNormal where
  xAxis := isName_of_bind
  yAxis := isName_of_bind
  filterColumn := isName_of_bind
  filterValue n hn := by
    obtain ⟨w, -, hw⟩ := Option.bind_eq_some_iff.1 hn
    exact FilterValue.fits_of_ofJson? hw
  sortBy := isName_of_bind
  limit n hn := by
    obtain ⟨w, -, hw⟩ := Option.bind_eq_some_iff.1 hn
    exact limitOf?_le hw
  timePeriod := isName_of_bind

/-- No values ask for everything. -/
theorem ofValues_none : ofValues (fun _ => none) = empty := rfl

/-- The values that a JSON value has under its keys are those of its fields. -/
theorem ofJson_eq_ofValues (v : Json) : ofJson v = ofValues fun key => v.field? key := by
  cases v with
  | object fields => rfl
  | _ => exact ofValues_none.symm

/-- **What is read is in normal form.** -/
theorem isNormal_ofJson (v : Json) : (ofJson v).IsNormal :=
  ofJson_eq_ofValues v ▸ isNormal_ofValues _

/-- What is read of a set as it is written, field by field. -/
theorem ofJson_toJson_eq (p : ParameterSet) : ofJson p.toJson =
    { xAxis := nameOf? (Json.ofText? p.xAxis)
      yAxis := nameOf? (Json.ofText? p.yAxis)
      aggregation := aggregationOf (some (.text p.aggregation.word))
      filterColumn := nameOf? (Json.ofText? p.filterColumn)
      filterValue := FilterValue.ofJson? (filterJson p.filterValue)
      sortBy := nameOf? (Json.ofText? p.sortBy)
      sortOrder := sortOrderOf (some (.text p.sortOrder.word))
      limit := limitOf? (match p.limit with | some n => .integer n | none => .null)
      timePeriod := nameOf? (Json.ofText? p.timePeriod) } := by
  simp only [toJson, Json.ofFields, ofJson, ofValues, Json.Fields.get?_ofList]
  rfl

/-- **A set in normal form reads back from how it is written.** -/
theorem ofJson_toJson {p : ParameterSet} (h : p.IsNormal) : ofJson p.toJson = p := by
  have hlimit : limitOf? (match p.limit with | some n => .integer n | none => .null) = p.limit := by
    cases hp : p.limit with
    | none => rfl
    | some n => exact limitOf?_integer_iff.2 ⟨rfl, h.limit n hp⟩
  rw [ofJson_toJson_eq, nameOf?_ofText? h.xAxis, nameOf?_ofText? h.yAxis, aggregationOf_word,
    nameOf?_ofText? h.filterColumn, FilterValue.ofJson?_filterJson h.filterValue,
    nameOf?_ofText? h.sortBy, sortOrderOf_word, hlimit, nameOf?_ofText? h.timePeriod]

/-! ## One key, one field -/

/-- Two sets differ at most in the field of a key, and not at all if no field has it. -/
structure AgreesOutside (key : String) (p q : ParameterSet) : Prop where
  xAxis : key ≠ "x_axis" → p.xAxis = q.xAxis
  yAxis : key ≠ "y_axis" → p.yAxis = q.yAxis
  aggregation : key ≠ "aggregation" → p.aggregation = q.aggregation
  filterColumn : key ≠ "filter_column" → p.filterColumn = q.filterColumn
  filterValue : key ≠ "filter_value" → p.filterValue = q.filterValue
  sortBy : key ≠ "sort_by" → p.sortBy = q.sortBy
  sortOrder : key ≠ "sort_order" → p.sortOrder = q.sortOrder
  limit : key ≠ "limit" → p.limit = q.limit
  timePeriod : key ≠ "time_period" → p.timePeriod = q.timePeriod

/-- **One key, one field.** Values that are the same under all other keys make sets that are the
same in all other fields. -/
theorem agreesOutside_ofValues {f g : String → Option Json} {key : String}
    (h : ∀ other, other ≠ key → f other = g other) :
    AgreesOutside key (ofValues f) (ofValues g) where
  xAxis hne := congrArg (·.bind nameOf?) (h _ hne.symm)
  yAxis hne := congrArg (·.bind nameOf?) (h _ hne.symm)
  aggregation hne := congrArg aggregationOf (h _ hne.symm)
  filterColumn hne := congrArg (·.bind nameOf?) (h _ hne.symm)
  filterValue hne := congrArg (·.bind FilterValue.ofJson?) (h _ hne.symm)
  sortBy hne := congrArg (·.bind nameOf?) (h _ hne.symm)
  sortOrder hne := congrArg sortOrderOf (h _ hne.symm)
  limit hne := congrArg (·.bind limitOf?) (h _ hne.symm)
  timePeriod hne := congrArg (·.bind nameOf?) (h _ hne.symm)

/-! ## What is written -/

theorem isHeld_ofText? {d : Nat} (o : Option String) : Json.IsHeld d (Json.ofText? o) := by
  cases o with
  | none => exact .null
  | some s => exact .text s

/-- A filter is written as what a program can hold, if it was read of such a value. A whole number
that 64 bits hold without a sign alone has become a double, which is finite. -/
theorem isHeld_filterJson {d e : Nat} {v : Json} (h : Json.IsHeld d v) :
    Json.IsHeld e (filterJson (FilterValue.ofJson? v)) := by
  cases h with
  | @integer _ n hlow hhigh =>
    rw [FilterValue.ofJson?]
    split
    · exact .integer hlow hhigh
    · rename_i hfits
      unfold Fits64 at hfits
      obtain ⟨m, rfl⟩ : ∃ m : Nat, n = m := Int.eq_ofNat_of_zero_le (by omega)
      refine .real (Decimal.Binary64.isNormal_ofNat (n := m) ?_ ?_).isFinite
      · rintro rfl
        exact hfits (by decide)
      · omega
  | null => exact .null
  | bool b => exact .bool b
  | real hx => exact .real hx
  | text s => exact .text s
  | array _ => exact .null
  | object _ => exact .null

theorem exists_isHeld_of_field? {d : Nat} {v w : Json} {key : String} (h : Json.IsHeld d v)
    (hw : v.field? key = some w) : ∃ e, Json.IsHeld e w := by
  cases h with
  | @object e fields h =>
    exact ⟨e, h _ (Json.Fields.mem_of_get? hw)⟩
  | _ => cases hw

/-- **What is written is a value that a program can hold**, if what was read is one. -/
theorem isHeld_toJson {d : Nat} {v : Json} (h : Json.IsHeld d v) :
    Json.IsHeld 1 (ofJson v).toJson := by
  have hnormal := isNormal_ofJson v
  have hfilter : Json.IsHeld 0 (filterJson (ofJson v).filterValue) := by
    rw [ofJson_eq_ofValues]
    show Json.IsHeld 0 (filterJson ((v.field? "filter_value").bind FilterValue.ofJson?))
    cases hw : v.field? "filter_value" with
    | none => exact .null
    | some w =>
      obtain ⟨e, hheld⟩ := exists_isHeld_of_field? h hw
      exact isHeld_filterJson hheld
  generalize ofJson v = p at hnormal hfilter
  have hlimit : Json.IsHeld 0 (match p.limit with | some n => .integer n | none => .null) := by
    cases hp : p.limit with
    | none => exact .null
    | some n =>
      have hn := hnormal.limit n hp
      unfold largestLimit at hn
      exact .integer (by omega) (by omega)
  refine .object fun f hf => ?_
  have hmem := Json.Fields.mem_of_mem_ofList hf
  simp only [List.mem_cons, List.not_mem_nil, or_false] at hmem
  obtain rfl | rfl | rfl | rfl | rfl | rfl | rfl | rfl | rfl := hmem
  · exact isHeld_ofText? _
  · exact isHeld_ofText? _
  · exact .text _
  · exact isHeld_ofText? _
  · exact hfilter
  · exact isHeld_ofText? _
  · exact .text _
  · exact hlimit
  · exact isHeld_ofText? _

/-- **Reading is canonical.** What is read of a JSON value is a set in normal form, and the sets in
normal form are just those that read back from how they are written, so what was read always does.
It is written as a value that a program can hold, if it was read of one. Whatever becomes of the
value under one key of an object, no field of another key changes. -/
theorem ofJson_canonical (v : Json) :
    (ofJson v).IsNormal ∧ ofJson (ofJson v).toJson = ofJson v ∧
    (∀ d, Json.IsHeld d v → Json.IsHeld 1 (ofJson v).toJson) ∧
    (∀ p : ParameterSet, p.IsNormal ↔ ofJson p.toJson = p) ∧
    ∀ (fields : Json.Fields) (key : String),
      (∀ w, AgreesOutside key (ofJson (.object fields)) (ofJson (.object (fields.put key w)))) ∧
      AgreesOutside key (ofJson (.object fields)) (ofJson (.object (fields.erase key))) := by
  refine ⟨isNormal_ofJson v, ofJson_toJson (isNormal_ofJson v), fun d => isHeld_toJson,
    fun p => ⟨ofJson_toJson, fun h => h ▸ isNormal_ofJson _⟩, fun fields key => ⟨fun w => ?_, ?_⟩⟩
  · exact agreesOutside_ofValues fun other hne => (Json.Fields.get?_put_of_ne hne w fields).symm
  · exact agreesOutside_ofValues fun other hne => (Json.Fields.get?_erase_of_ne hne fields).symm

/-- A loose question: blanks around its words, a word that is no direction, a number for a name, a
text for a number, and a whole number that 64 bits hold without a sign alone. -/
def looseFields : Json.Fields :=
  [("aggregation", .text " AVG "), ("filter_column", .text "price"),
    ("filter_value", .integer 0x8000000000000000), ("limit", .text " +5 "),
    ("sort_order", .text "up"), ("x_axis", .text "\u3000item\n"), ("y_axis", .integer 3)]

theorem ofJson_canonical_loose :
    Json.IsHeld 1 (.object looseFields) ∧
    Json.IsHeld 1 (ofJson (.object looseFields)).toJson ∧
    ofJson (ofJson (.object looseFields)).toJson = ofJson (.object looseFields) ∧
    ofJson (.object looseFields) = { empty with
      xAxis := some "item"
      aggregation := .average
      filterColumn := some "price"
      filterValue := some (.real 9223372036854775808)
      limit := some 5 } := by
  have hheld : Json.IsHeld 1 (.object looseFields) := by
    refine .object ?_
    simp only [looseFields, List.forall_mem_cons, List.not_mem_nil, false_implies, implies_true,
      and_true]
    exact ⟨.text _, .text _, .integer (by decide) (by decide), .text _, .text _, .text _,
      .integer (by decide) (by decide)⟩
  obtain ⟨-, hreads, hwritten, -⟩ := ofJson_canonical (.object looseFields)
  exact ⟨hheld, hwritten 1 hheld, hreads, by decide +kernel⟩

end ParameterSet

end SalesLedger
