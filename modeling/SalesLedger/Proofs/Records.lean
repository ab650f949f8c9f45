import Mathlib.Data.List.Induction
import Mathlib.Data.String.Basic
import SalesLedger.Proofs.DateReading
import SalesLedger.Proofs.Ranking

/-!
# Records

What a caller sees of a row: its cells under the names of the columns, with the date in its usual
form.

* `Json.Fields.ext`: fields whose keys ascend are told apart by what they hold.
* `normalizeRow_ofList`: only the date is brought into a form; every other field is as it was.
* `get?_record`: what the record of a category and a measure has under the measure.
-/

namespace SalesLedger

open Sql

/-! ## Fields -/

namespace Json.Fields

/-- Whether the keys ascend. -/
def IsAscending (fields : Fields) : Prop := (fields.map Prod.fst).Pairwise (· < ·)

theorem mem_keys_put {key k : String} {v : Json} {fields : Fields} :
    k ∈ (fields.put key v).map Prod.fst ↔ k = key ∨ k ∈ fields.map Prod.fst := by
  induction fields with
  | nil => simp [put]
  | cons f rest ih =>
    obtain ⟨k', v'⟩ := f
    unfold put
    split
    · rename_i heq
      subst heq
      simp
    · split
      · simp
      · rw [List.map_cons, List.mem_cons, ih, List.map_cons, List.mem_cons]
        exact or_left_comm

theorem mem_of_mem_put {key : String} {v : Json} {fields : Fields} {f : String × Json}
    (h : f ∈ fields.put key v) : f = (key, v) ∨ f ∈ fields := by
  induction fields with
  | nil => exact .inl (List.mem_singleton.1 h)
  | cons g rest ih =>
    unfold put at h
    split at h
    · exact (List.mem_cons.1 h).imp_right (List.mem_cons_of_mem g)
    · split at h
      · exact List.mem_cons.1 h
      · rcases List.mem_cons.1 h with rfl | h
        · exact .inr List.mem_cons_self
        · exact (ih h).imp_right (List.mem_cons_of_mem g)

theorem mem_of_get? {key : String} {v : Json} {fields : Fields}
    (h : fields.get? key = some v) : (key, v) ∈ fields := by
  induction fields with
  | nil => cases h
  | cons f rest ih =>
    obtain ⟨k, w⟩ := f
    rw [get?] at h
    split at h
    · rename_i hk
      rw [hk, Option.some.inj h]
      exact List.mem_cons_self
    · exact List.mem_cons_of_mem _ (ih h)

theorem mem_keys_of_get? {key : String} {v : Json} {fields : Fields}
    (h : fields.get? key = some v) : key ∈ fields.map Prod.fst :=
  List.mem_map_of_mem (mem_of_get? h)

theorem isAscending_put {fields : Fields} (h : fields.IsAscending) (key : String) (v : Json) :
    (fields.put key v).IsAscending := by
  induction fields with
  | nil => exact List.pairwise_singleton _ _
  | cons f rest ih =>
    obtain ⟨k, w⟩ := f
    obtain ⟨hfirst, hrest⟩ := List.pairwise_cons.1 h
    unfold put
    split
    · rename_i heq
      exact heq ▸ h
    · rename_i hne
      split
      · rename_i hlt
        refine List.pairwise_cons.2 ⟨fun k' hk' => ?_, h⟩
        rcases List.mem_cons.1 hk' with rfl | hk'
        · exact hlt
        · exact String.lt_trans hlt (hfirst k' hk')
      · rename_i hlt
        refine List.pairwise_cons.2 ⟨fun k' hk' => ?_, ih hrest⟩
        rcases mem_keys_put.1 hk' with rfl | hk'
        · exact lt_of_le_of_ne (String.not_lt.1 hlt) hne
        · exact hfirst k' hk'

theorem isAscending_ofList (fields : List (String × Json)) : (ofList fields).IsAscending := by
  have hfold : ∀ (fields : List (String × Json)) (acc : Fields), acc.IsAscending →
      (fields.foldl (fun acc f => acc.put f.1 f.2) acc).IsAscending := by
    intro fields
    induction fields with
    | nil => exact fun _ h => h
    | cons f rest ih => exact fun acc h => ih _ (isAscending_put h f.1 f.2)
  exact hfold fields [] List.Pairwise.nil

/-- There is nothing under a key that is less than all others. -/
theorem get?_of_below {key : String} {fields : Fields}
    (h : ∀ k ∈ fields.map Prod.fst, key < k) : fields.get? key = none := by
  rw [Option.eq_none_iff_forall_ne_some]
  intro v hv
  exact String.lt_irrefl _ (h key (mem_keys_of_get? hv))

theorem get?_cons_of_below {k : String} {f : String × Json} {rest : Fields}
    (hleast : ∀ k' ∈ rest.map Prod.fst, f.1 < k') (hlt : k < f.1) :
    get? k (f :: rest) = none := by
  refine get?_of_below fun k' hk' => ?_
  rcases List.mem_cons.1 hk' with rfl | hk'
  · exact hlt
  · exact String.lt_trans hlt (hleast k' hk')

/-- **Fields whose keys ascend are told apart by what they hold.** -/
theorem ext {a b : Fields} (ha : a.IsAscending) (hb : b.IsAscending)
    (h : ∀ key, a.get? key = b.get? key) : a = b := by
  induction a generalizing b with
  | nil =>
    cases b with
    | nil => rfl
    | cons g rest' =>
      have hg := h g.1
      simp [get?] at hg
  | cons f rest ih =>
    cases b with
    | nil =>
      have hf := h f.1
      simp [get?] at hf
    | cons g rest' =>
      obtain ⟨hfirst, hrest⟩ := List.pairwise_cons.1 ha
      obtain ⟨hfirst', hrest'⟩ := List.pairwise_cons.1 hb
      have hkey : f.1 = g.1 := by
        rcases lt_trichotomy f.1 g.1 with hlt | heq | hlt
        · have hf := h f.1
          rw [get?_cons_of_below hfirst' hlt] at hf
          simp [get?] at hf
        · exact heq
        · have hg := h g.1
          rw [get?_cons_of_below hfirst hlt] at hg
          simp [get?] at hg
      obtain rfl : f = g := by
        have hf := h f.1
        exact Prod.ext hkey (by simpa [get?, hkey] using hf)
      refine congrArg (f :: ·) (ih hrest hrest' fun key => ?_)
      -- the first key stands nowhere else
      by_cases hf : f.1 = key
      · subst hf
        rw [get?_of_below hfirst, get?_of_below hfirst']
      · have hall := h key
        simpa [get?, hf] using hall

theorem ofList_concat (fields : List (String × Json)) (f : String × Json) :
    ofList (fields ++ [f]) = (ofList fields).put f.1 f.2 := by
  unfold ofList
  rw [List.foldl_append]
  rfl

/-- An object has no other fields than those that it was made of. -/
theorem mem_of_mem_ofList {fields : List (String × Json)} {f : String × Json}
    (h : f ∈ ofList fields) : f ∈ fields := by
  induction fields using List.reverseRecOn with
  | nil => cases h
  | append_singleton fields g ih =>
    rw [ofList_concat] at h
    rcases mem_of_mem_put h with rfl | h
    · exact List.mem_concat_self
    · exact List.mem_append_left _ (ih h)

/-- A record of two fields. -/
theorem get?_pair {key key' : String} (h : key ≠ key') (v w : Json) :
    (ofList [(key, v), (key', w)]).get? key = some v ∧
      (ofList [(key, v), (key', w)]).get? key' = some w :=
  ⟨(get?_put_of_ne h w _).trans (get?_put_self key v []), get?_put_self key' w _⟩

/-- What goes by a key that is greater than all others comes last. -/
theorem put_of_above {key : String} {fields : Fields} (h : ∀ k ∈ fields.map Prod.fst, k < key)
    (v : Json) : fields.put key v = fields ++ [(key, v)] := by
  induction fields with
  | nil => rfl
  | cons f rest ih =>
    have hlt : f.1 < key := h f.1 List.mem_cons_self
    have hne : f.1 ≠ key := by
      intro heq
      rw [heq] at hlt
      exact String.lt_irrefl _ hlt
    unfold put
    rw [if_neg hne, if_neg (String.lt_asymm hlt), ih fun k hk => h k (List.mem_cons_of_mem _ hk),
      List.cons_append]

/-- Fields whose keys ascend are kept as they are. -/
theorem ofList_of_isAscending {fields : List (String × Json)} (h : IsAscending fields) :
    ofList fields = fields := by
  induction fields using List.reverseRecOn with
  | nil => rfl
  | append_singleton fields f ih =>
    unfold IsAscending at h
    rw [List.map_append, List.pairwise_append] at h
    rw [ofList_concat, ih h.1, put_of_above fun k hk => h.2.2 k hk f.1 (by simp)]

end Json.Fields

/-! ## Dates -/

namespace Presentation

/-- A value in the form that it has under a name. -/
def dated (key : String) (v : Json) : Json :=
  if key = Query.dateColumn then normalizeDate v else v

theorem dated_of_ne {key : String} (h : key ≠ Query.dateColumn) (v : Json) : dated key v = v :=
  if_neg h

/-- The date of a sale is in its usual form already. -/
theorem normalizeDate_text (d : Calendar.Date) :
    normalizeDate (.text d.text) = .text d.text := by
  unfold normalizeDate
  dsimp only
  rw [Calendar.ofRecordText?_text]

/-- What is no text is no date. -/
theorem normalizeDate_of_ne_text {c : Cell} (hlegible : c.isLegible = true)
    (htext : ∀ s, c ≠ .text s) : normalizeDate c.toJson = .null := by
  cases c with
  | null => rfl
  | integer n => rfl
  | real x =>
    unfold Cell.toJson Json.ofFloat
    dsimp only
    split <;> rfl
  | text s => exact absurd rfl (htext s)
  | malformed bytes => cases hlegible
  | blob bytes => cases hlegible

theorem isAscending_normalizeRow {row : Json.Fields} (h : row.IsAscending) :
    Json.Fields.IsAscending (normalizeRow row) := by
  unfold normalizeRow
  split
  · exact Json.Fields.isAscending_put h _ _
  · exact h

theorem get?_normalizeRow (row : Json.Fields) (key : String) :
    (normalizeRow row).get? key = (row.get? key).map (dated key) := by
  have hkept : ∀ {v : Option Json}, key ≠ Query.dateColumn → v.map (dated key) = v := by
    intro v hkey
    cases v with
    | none => rfl
    | some v => exact congrArg some (dated_of_ne hkey v)
  unfold normalizeRow
  by_cases hkey : key = Query.dateColumn
  · subst hkey
    split
    · rename_i v hv
      rw [Json.Fields.get?_put_self, hv]
      rfl
    · rename_i hv
      rw [hv]
      rfl
  · rw [hkept hkey]
    split
    · exact Json.Fields.get?_put_of_ne hkey _ _
    · rfl

/-- **Only the date is brought into a form**; every other field is as it was. -/
theorem normalizeRow_ofList (fields : List (String × Json)) :
    normalizeRow (Json.Fields.ofList fields) =
      Json.Fields.ofList (fields.map fun f => (f.1, dated f.1 f.2)) := by
  refine Json.Fields.ext (isAscending_normalizeRow (Json.Fields.isAscending_ofList _))
    (Json.Fields.isAscending_ofList _) fun key => ?_
  rw [get?_normalizeRow]
  induction fields using List.reverseRecOn with
  | nil => rfl
  | append_singleton fields f ih =>
    rw [List.map_append, List.map_singleton, Json.Fields.ofList_concat, Json.Fields.ofList_concat]
    by_cases hkey : key = f.1
    · subst hkey
      rw [Json.Fields.get?_put_self, Json.Fields.get?_put_self]
      rfl
    · rw [Json.Fields.get?_put_of_ne hkey, Json.Fields.get?_put_of_ne hkey]
      exact ih

end Presentation

/-! ## Records -/

namespace Service

/-- The record of a row with a category and a measure. -/
def record (x measure : String) (cells : List Cell) : Json.Fields :=
  Presentation.normalizeRow (Json.Fields.ofList ([x, measure].zip (cells.map Cell.toJson)))

variable {x measure : String} {a b : Cell}

theorem record_eq (x measure : String) (a b : Cell) : record x measure [a, b] =
    ((Json.Fields.put x (Presentation.dated x a.toJson) []).put measure
      (Presentation.dated measure b.toJson)) :=
  Presentation.normalizeRow_ofList _

theorem mem_keys_record {k : String} :
    k ∈ (record x measure [a, b]).map Prod.fst ↔ k = measure ∨ k = x := by
  rw [record_eq, Json.Fields.mem_keys_put, Json.Fields.mem_keys_put]
  simp

/-- The measure of a record, as a date where it goes by that name. -/
theorem get?_record :
    (record x measure [a, b]).get? measure = some (Presentation.dated measure b.toJson) := by
  rw [record_eq]
  exact Json.Fields.get?_put_self _ _ _

end Service

end SalesLedger
