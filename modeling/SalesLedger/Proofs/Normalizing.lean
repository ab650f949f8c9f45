import SalesLedger.Proofs.DaySpelling
import SalesLedger.Proofs.Records

/-!
# Dates in their usual form

`normalizeDates_projects`: rows whose dates are brought into their usual form are the rows they were,
but for the dates, and bringing them into it again changes nothing. A text that names a day in any
of the five spellings becomes the text of that day; every other value becomes a null.

* `keys_put_of_mem`: writing a field that is there adds no key.
* `isDateOf_normalizeDate`: what becomes of a value.
* `normalizeRow_idem`: a row is brought into the form once.
-/

namespace SalesLedger

/-- Writing a field that is there adds no key. -/
theorem Json.Fields.keys_put_of_mem {fields : Fields} (h : fields.IsAscending) {key : String}
    (hmem : key ∈ fields.map Prod.fst) (v : Json) :
    (fields.put key v).map Prod.fst = fields.map Prod.fst := by
  induction fields with
  | nil => cases hmem
  | cons f rest ih =>
    obtain ⟨k, w⟩ := f
    obtain ⟨hfirst, hrest⟩ := List.pairwise_cons.1 h
    unfold put
    split
    · rename_i heq
      rw [List.map_cons, List.map_cons, heq]
    · rename_i hne
      have hmem' : key ∈ rest.map Prod.fst := (List.mem_cons.1 hmem).resolve_left (Ne.symm hne)
      -- the key stands behind this one
      rw [if_neg (String.lt_asymm (hfirst key hmem')), List.map_cons, List.map_cons,
        ih hrest hmem']

namespace Presentation

open Calendar

/-- What becomes of a value that stands for a date: the text of the day that it names, or a null. -/
inductive IsDateOf : Json → Json → Prop where
  | named {s : String} {d : Date} (h : NamesDay (Text.trim s).toList d) :
    IsDateOf (.text s) (.text d.text)
  | unnamed {v : Json} (h : ∀ s d, v = .text s → ¬ NamesDay (Text.trim s).toList d) :
    IsDateOf v .null

/-- A row with its date in the usual form: the keys are the same, what is no date is the same, and
the date is one that the row had. -/
structure IsNormalized (row row' : Json.Fields) : Prop where
  keys : row'.map Prod.fst = row.map Prod.fst
  others : ∀ key, key ≠ Query.dateColumn → row'.get? key = row.get? key
  date : ∀ v', row'.get? Query.dateColumn = some v' →
    ∃ v, row.get? Query.dateColumn = some v ∧ IsDateOf v v'

theorem normalizeDate_of_names {s : String} {d : Date} (h : NamesDay (Text.trim s).toList d) :
    normalizeDate (.text s) = .text d.text := by
  unfold normalizeDate
  dsimp only
  rw [ofRecordText?_eq_some_iff.2 h]

/-- **What becomes of a value.** -/
theorem isDateOf_normalizeDate (v : Json) : IsDateOf v (normalizeDate v) := by
  cases v with
  | text s =>
    cases hday : Date.ofRecordText? s with
    | none =>
      have hnull : normalizeDate (.text s) = .null := by
        unfold normalizeDate
        dsimp only
        rw [hday]
      rw [hnull]
      refine .unnamed ?_
      rintro _ d ⟨⟩ hnames
      rw [ofRecordText?_eq_some_iff.2 hnames] at hday
      cases hday
    | some d =>
      have hnames := ofRecordText?_eq_some_iff.1 hday
      rw [normalizeDate_of_names hnames]
      exact .named hnames
  | _ =>
    refine .unnamed ?_
    rintro _ _ ⟨⟩

theorem normalizeDate_idem (v : Json) : normalizeDate (normalizeDate v) = normalizeDate v := by
  have h := isDateOf_normalizeDate v
  generalize normalizeDate v = v' at h ⊢
  cases h with
  | named h => exact normalizeDate_text _
  | unnamed h => rfl

theorem keys_normalizeRow {row : Json.Fields} (h : row.IsAscending) :
    (normalizeRow row).map Prod.fst = row.map Prod.fst := by
  unfold normalizeRow
  split
  · rename_i v hv
    exact Json.Fields.keys_put_of_mem h (Json.Fields.mem_keys_of_get? hv) _
  · rfl

theorem isNormalized_normalizeRow {row : Json.Fields} (h : row.IsAscending) :
    IsNormalized row (normalizeRow row) where
  keys := keys_normalizeRow h
  others key hkey := by
    rw [get?_normalizeRow]
    cases row.get? key with
    | none => rfl
    | some v => exact congrArg some (dated_of_ne hkey v)
  date v' hv' := by
    rw [get?_normalizeRow] at hv'
    obtain ⟨v, hv, rfl⟩ := Option.map_eq_some_iff.1 hv'
    refine ⟨v, hv, ?_⟩
    rw [dated, if_pos rfl]
    exact isDateOf_normalizeDate v

/-- **A row is brought into the form once.** -/
theorem normalizeRow_idem {row : Json.Fields} (h : row.IsAscending) :
    normalizeRow (normalizeRow row) = normalizeRow row := by
  have hrow := isAscending_normalizeRow h
  refine Json.Fields.ext (isAscending_normalizeRow hrow) hrow fun key => ?_
  rw [get?_normalizeRow, get?_normalizeRow, Option.map_map]
  congr 1
  funext v
  unfold dated
  dsimp only [Function.comp_apply]
  split
  · exact normalizeDate_idem v
  · rfl

/-- **Dates in their usual form.** Rows keep their number, their order, their keys and all of their
fields but the date. A date becomes the text of the day that it names, in whichever of the five
spellings, as it is written and not as an offset would move it, and a null where it names none; the
text of a day stays as it is, whatever the year. Doing it twice is doing it once. -/
theorem normalizeDates_projects (rows : List Json.Fields) (h : ∀ row ∈ rows, row.IsAscending) :
    List.Forall₂ IsNormalized rows (normalizeDates rows) ∧
    (∀ (s : String) (d : Date), NamesDay (Text.trim s).toList d →
      normalizeDate (.text s) = .text d.text) ∧
    (∀ d : Date, normalizeDate (.text d.text) = .text d.text) ∧
    normalizeDates (normalizeDates rows) = normalizeDates rows := by
  refine ⟨?_, fun s d => normalizeDate_of_names, normalizeDate_text, ?_⟩
  · unfold normalizeDates
    rw [List.forall₂_map_right_iff]
    exact List.forall₂_same.2 fun row hrow => isNormalized_normalizeRow (h row hrow)
  · unfold normalizeDates
    rw [List.map_map]
    exact List.map_congr_left fun row hrow => normalizeRow_idem (h row hrow)

/-- A sale late in the evening, west of the meridian: in universal time it is the day after. -/
def lateSale : Json.Fields :=
  [("item", .text "Rice"), ("sale_date", .text " 2025-01-10T23:30:00-05:45 ")]

/-- The day is the one that is written, and a date after the year 9999 stays. -/
theorem normalizeDates_projects_late :
    List.Forall₂ IsNormalized [lateSale] (normalizeDates [lateSale]) ∧
    normalizeDate (.text " 2025-01-10T23:30:00-05:45 ") = .text "2025-01-10" ∧
    normalizeDate (.text "+10000-01-01") = .text "+10000-01-01" := by
  have hrow : lateSale.IsAscending := by
    unfold Json.Fields.IsAscending
    decide +kernel
  obtain ⟨hrows, hnamed, hkept, -⟩ :=
    normalizeDates_projects [lateSale] (List.forall_mem_singleton.2 hrow)
  have hnames : NamesDay (Text.trim " 2025-01-10T23:30:00-05:45 ").toList
      ⟨2025, 1, 10, by decide⟩ := ofRecordText?_eq_some_iff.1 (by decide +kernel)
  have hwritten : Date.text ⟨2025, 1, 10, by decide⟩ = "2025-01-10" := by decide +kernel
  have hwide : Date.text ⟨10000, 1, 1, by decide⟩ = "+10000-01-01" := by decide +kernel
  refine ⟨hrows, ?_, ?_⟩
  · rw [hnamed _ _ hnames, hwritten]
  · rw [← hwide, hkept]

end Presentation

end SalesLedger
