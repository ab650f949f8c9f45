import SalesLedger.Presentation
import SalesLedger.Proofs.Grouping
import SalesLedger.Proofs.Rounding
import SalesLedger.Proofs.TextOrder

/-!
# Ranking rows by a measure

The exact order of the values in an answer, numbers by value and texts by their bytes, beside the
order that a presentation uses, which takes whole numbers for the doubles nearest to them.

* `exactLe_toJson`: it is the order of the cells that the values come from.
* `le_of_exactLe`: the presentation's order may take values for level, but never turns them round.
* `shape_of_ranked`: rows that are in exact order already are presented as they are.
-/

namespace SalesLedger

open Sql Json

/-! ## Values -/

/-- A number in units of the least double. -/
def Json.exactUnits : Json → Int
  | .integer n => Decimal.Binary64.unitsOfInt n
  | .real x => Decimal.Binary64.units x
  | _ => 0

/-- Whether one value comes before another or is level with it. Numbers come before texts. -/
def Json.exactLe (a b : Json) : Bool :=
  if Presentation.rank a = Presentation.rank b then
    match a, b with
    | .bool x, .bool y => !x || y
    | .text s, .text t => Cell.bytesLe (Text.Utf8.bytes s) (Text.Utf8.bytes t)
    | _, _ => a.exactUnits ≤ b.exactUnits
  else Presentation.rank a ≤ Presentation.rank b

/-- The same in a direction. -/
def Json.exactLeads (d : SortOrder) (a b : Json) : Bool :=
  match d with
  | .ascending => a.exactLe b
  | .descending => b.exactLe a

namespace Presentation

open Decimal.Binary64

/-- Only whole numbers are taken for other numbers. -/
theorem magnitude_cases (a : Json) :
    (∃ n, a = .integer n) ∨ (magnitude a = a.exactUnits ∧ IsShort a.exactUnits) := by
  have hzero : IsShort 0 := ⟨0, 0, by decide, by decide⟩
  cases a with
  | integer n => exact .inl ⟨n, rfl⟩
  | real x => exact .inr ⟨rfl, isShort_units x⟩
  | _ => exact .inr ⟨rfl, hzero⟩

theorem magnitude_le {a b : Json} (h : a.exactUnits ≤ b.exactUnits) :
    magnitude a ≤ magnitude b := by
  rcases magnitude_cases a with ⟨m, rfl⟩ | ⟨ha, hshort⟩
  · rcases magnitude_cases b with ⟨n, rfl⟩ | ⟨hb, hshort⟩
    · exact units_ofInt_le_iff.2 (rounded_mono (units_ofInt_le_iff.1 h))
    · rw [hb]
      exact rounded_units_le hshort h
  · rw [ha]
    rcases magnitude_cases b with ⟨n, rfl⟩ | ⟨hb, -⟩
    · exact le_rounded_units hshort h
    · rw [hb]
      exact h

/-- **What is in exact order is in the presentation's order.** -/
theorem le_of_exactLe {a b : Json} (h : a.exactLe b = true) : le a b = true := by
  unfold exactLe at h
  unfold le
  split
  · rename_i hrank
    rw [if_pos hrank] at h
    split
    · exact h
    · rename_i s t
      exact decide_eq_true ((Text.Utf8.le_iff_bytesLe s t).2 h)
    · rename_i hbool htext
      split at h
      · exact absurd rfl (hbool _ _ rfl)
      · exact absurd rfl (htext _ _ rfl)
      · exact decide_eq_true (magnitude_le (of_decide_eq_true h))
  · rename_i hrank
    rw [if_neg hrank] at h
    exact h

end Presentation

/-! ## Cells -/

/-- Whether a cell is a number, a text that can be read, or nothing. -/
def Sql.Cell.isLegible : Cell → Bool
  | .malformed _ | .blob _ => false
  | _ => true

/-- A legible cell with a value in an answer is that value. -/
theorem Sql.Cell.toJson_cases {c : Cell} (hc : c.isLegible = true) (hnull : c.toJson ≠ .null) :
    (∃ n, c = .integer n) ∨ (∃ x, c = .real x ∧ c.toJson = .real x) ∨ ∃ s, c = .text s := by
  cases c with
  | null => exact absurd rfl hnull
  | integer n => exact .inl ⟨n, rfl⟩
  | real x =>
    refine .inr (.inl ⟨x, rfl, ?_⟩)
    show Json.ofFloat x = .real x
    have hvalue : Json.ofFloat x ≠ .null := hnull
    unfold Json.ofFloat at hvalue ⊢
    split
    · rfl
    · rename_i hfinite
      exact absurd (if_neg hfinite) hvalue
  | text s => exact .inr (.inr ⟨s, rfl⟩)
  | malformed bytes => cases hc
  | blob bytes => cases hc

/-- **The exact order of values is that of the cells that they come from.** -/
theorem Json.exactLe_toJson {a b : Cell} (ha : a.isLegible = true) (hb : b.isLegible = true)
    (hna : a.toJson ≠ .null) (hnb : b.toJson ≠ .null) :
    a.toJson.exactLe b.toJson = a.le b := by
  rcases Sql.Cell.toJson_cases ha hna with ⟨m, rfl⟩ | ⟨x, rfl, hx⟩ | ⟨s, rfl⟩
  · rcases Sql.Cell.toJson_cases hb hnb with ⟨n, rfl⟩ | ⟨y, rfl, hy⟩ | ⟨t, rfl⟩
    · rfl
    · rw [hy]
      rfl
    · rfl
  · rw [hx]
    rcases Sql.Cell.toJson_cases hb hnb with ⟨n, rfl⟩ | ⟨y, rfl, hy⟩ | ⟨t, rfl⟩
    · rfl
    · rw [hy]
      rfl
    · rfl
  · rcases Sql.Cell.toJson_cases hb hnb with ⟨n, rfl⟩ | ⟨y, rfl, hy⟩ | ⟨t, rfl⟩
    · rfl
    · rw [hy]
      rfl
    · rw [Sql.Cell.text_le]
      show Cell.bytesLe _ _ = _
      rw [Bool.eq_iff_iff, decide_eq_true_iff]
      exact (Text.Utf8.le_iff_bytesLe s t).symm

theorem Json.exactLeads_toJson {a b : Cell} (ha : a.isLegible = true) (hb : b.isLegible = true)
    (hna : a.toJson ≠ .null) (hnb : b.toJson ≠ .null) (d : SortOrder) :
    Json.exactLeads d a.toJson b.toJson = a.leads d b := by
  cases d with
  | ascending => exact Json.exactLe_toJson ha hb hna hnb
  | descending => exact Json.exactLe_toJson hb ha hnb hna

/-! ## Rows -/

/-- One row does not rank behind another by the value of a measure. -/
def Ranks (measure : String) (d : SortOrder) (a b : Json.Fields) : Prop :=
  ∃ v w, a.get? measure = some v ∧ b.get? measure = some w ∧ v ≠ .null ∧ w ≠ .null ∧
    Json.exactLeads d v w = true

namespace Presentation

theorem before_of_ranks {measure : String} {d : SortOrder} {a b : Json.Fields}
    (h : Ranks measure d a b) : before measure d a b = true := by
  obtain ⟨v, w, ha, hb, hv, hw, hle⟩ := h
  have hisNull : ∀ {v : Json}, v ≠ .null → (!v.isNull) = true := by
    intro v hv
    cases v with
    | null => exact absurd rfl hv
    | _ => rfl
  unfold before valueIn
  rw [ha, hb, Option.filter_some, if_pos (hisNull hv), Option.filter_some, if_pos (hisNull hw)]
  cases d with
  | ascending => exact le_of_exactLe hle
  | descending => exact le_of_exactLe hle

/-- **Rows that are ranked by the column that counts are presented as they are**, if they are no
more than wanted. -/
theorem shape_of_ranked {p : Presentation} {rows : List Json.Fields} {measure : String}
    (hcolumn : ∀ column ∈ sortColumn? p.sortCandidates rows, column = measure)
    (hranked : rows.Pairwise (Ranks measure p.sortOrder))
    (hlimit : ∀ n ∈ p.limit, rows.length ≤ n) : p.shape rows = rows := by
  have hsorted : p.sorted rows = rows := by
    unfold sorted
    split
    · rename_i column heq
      obtain rfl := hcolumn column heq
      exact List.mergeSort_of_pairwise (hranked.imp before_of_ranks)
    · rfl
  unfold shape
  rw [hsorted]
  split
  · rename_i n hn
    exact List.take_of_length_le (hlimit n hn)
  · rfl

end Presentation

end SalesLedger
