import Mathlib.Data.List.Sort
import Mathlib.Data.Prod.Lex
import SalesLedger.Proofs.ChartColumn
import SalesLedger.Proofs.Records

/-!
# Shaping rows

How a presentation orders rows of any values and caps them. `shape_arranges`: the shaped rows are
the first of all rows in one arrangement, which is as they came if no candidate names a column of
the first row. Otherwise the rows with a value in the column come first, in the order of the values
in either direction, and then those without; rows that the order cannot tell apart stay as they
came. Shaping rows with the same keys again changes nothing.

* `le_iff_place`: values of all kinds are compared by their places in one total order.
* `sortColumn?_eq_none_iff`, `picks_of_sortColumn?`: which column rows are ordered by.
* `isArranged_mergeSort`: what ordering rows by a column gives.
-/

namespace SalesLedger.Presentation

/-! ## Values -/

/-- What decides the place of a value among all values: its kind, then its truth or magnitude, then
its text. -/
def place : Json → Nat ×ₗ Int ×ₗ String
  | .bool b => toLex (1, toLex (if b then 1 else 0, ""))
  | .text s => toLex (3, toLex (0, s))
  | v => toLex (rank v, toLex (magnitude v, ""))

/-- **Values are compared by their places.** -/
theorem le_iff_place (a b : Json) : le a b = true ↔ place a ≤ place b := by
  cases a with
  | bool x =>
    cases b with
    | bool y => cases x <;> cases y <;> simp [le, place, rank, Prod.Lex.toLex_le_toLex]
    | _ => simp [le, place, rank, Prod.Lex.toLex_le_toLex]
  | _ =>
    cases b <;>
      simp [le, place, rank, magnitude, Prod.Lex.toLex_le_toLex, Int.le_iff_lt_or_eq]

theorem le_total (a b : Json) : le a b = true ∨ le b a = true := by
  rw [le_iff_place, le_iff_place]
  exact LinearOrder.le_total _ _

theorem le_trans {a b c : Json} (h : le a b = true) (h' : le b c = true) : le a c = true := by
  rw [le_iff_place] at h h' ⊢
  exact Preorder.le_trans _ _ _ h h'

/-- Whether one value comes before another in a direction, or is level with it. -/
def leads (d : SortOrder) (v w : Json) : Bool :=
  match d with
  | .ascending => le v w
  | .descending => le w v

/-- Whether the order cannot tell two values apart. -/
def level (v w : Json) : Bool := le v w && le w v

theorem leads_total (d : SortOrder) (v w : Json) : leads d v w = true ∨ leads d w v = true := by
  cases d with
  | ascending => exact le_total v w
  | descending => exact le_total w v

theorem leads_trans {d : SortOrder} {u v w : Json} (h : leads d u v = true)
    (h' : leads d v w = true) : leads d u w = true := by
  cases d with
  | ascending => exact le_trans h h'
  | descending => exact le_trans h' h

/-- Two values that are level with a third lead each other. -/
theorem leads_of_level {d : SortOrder} {u v w : Json} (hv : level u v = true)
    (hw : level u w = true) : leads d v w = true := by
  unfold level at hv hw
  rw [Bool.and_eq_true] at hv hw
  cases d with
  | ascending => exact le_trans hv.2 hw.1
  | descending => exact le_trans hw.2 hv.1

/-! ## Rows -/

section

variable (column : String) (d : SortOrder)

/-- Whether a row has a value in a column. -/
def hasValue (row : Json.Fields) : Bool := (valueIn column row).isSome

/-- Whether the value of a row in a column is level with a value. -/
def isLevel (v : Json) (row : Json.Fields) : Bool := (valueIn column row).any (level v)

theorem before_iff (a b : Json.Fields) : before column d a b = true ↔
    ∀ w, valueIn column b = some w → ∃ v, valueIn column a = some v ∧ leads d v w = true := by
  unfold before
  cases valueIn column b with
  | none => simp
  | some w =>
    cases valueIn column a with
    | none => simp
    | some v => cases d <;> simp [leads]

theorem before_total (a b : Json.Fields) :
    (before column d a b || before column d b a) = true := by
  rw [Bool.or_eq_true, before_iff, before_iff]
  cases ha : valueIn column a with
  | none => exact .inr fun _ h => nomatch h
  | some v =>
    cases hb : valueIn column b with
    | none => exact .inl fun _ h => nomatch h
    | some w =>
      rcases leads_total d v w with h | h
      · exact .inl fun w' hw => ⟨v, rfl, Option.some.inj hw ▸ h⟩
      · exact .inr fun v' hv => ⟨w, rfl, Option.some.inj hv ▸ h⟩

theorem before_trans (a b c : Json.Fields) (h : before column d a b = true)
    (h' : before column d b c = true) : before column d a c = true := by
  rw [before_iff] at h h' ⊢
  intro w hw
  obtain ⟨v, hv, hvw⟩ := h' w hw
  obtain ⟨u, hu, huv⟩ := h v hv
  exact ⟨u, hu, leads_trans huv hvw⟩

end

/-- Rows as a presentation arranges them by a column: those with a value come first, in the order
of the values, and rows that the order cannot tell apart are left as they were, be it that their
values are level or that they have none. -/
structure IsArranged (column : String) (d : SortOrder) (rows arranged : List Json.Fields) :
    Prop where
  perm : arranged.Perm rows
  nullsLast : arranged =
    arranged.filter (hasValue column) ++ rows.filter fun row => !hasValue column row
  ordered : (arranged.filterMap (valueIn column)).Pairwise fun v w => leads d v w = true
  stable : ∀ v, arranged.filter (isLevel column v) = rows.filter (isLevel column v)

/-- What stops to hold in a list once it has failed, holds of the first part of the list. -/
theorem eq_filter_append {α : Type} {p : α → Bool} {xs : List α}
    (h : xs.Pairwise fun a b => p b = true → p a = true) :
    xs = xs.filter p ++ xs.filter fun a => !p a := by
  induction xs with
  | nil => rfl
  | cons x xs ih =>
    obtain ⟨hx, hxs⟩ := List.pairwise_cons.1 h
    cases hp : p x with
    | true =>
      rw [List.filter_cons_of_pos hp, List.filter_cons_of_neg (by simp [hp]), List.cons_append,
        ← ih hxs]
    | false =>
      have hnone : xs.filter p = [] := List.filter_eq_nil_iff.2 fun a ha hpa => by
        rw [hx a ha hpa] at hp
        cases hp
      have hall : (xs.filter fun a => !p a) = xs := by
        have hrest := ih hxs
        rw [hnone, List.nil_append] at hrest
        exact hrest.symm
      rw [List.filter_cons_of_neg (by simp [hp]), List.filter_cons_of_pos (by simp [hp]), hnone,
        hall, List.nil_append]

/-- **Ordering rows by a column arranges them.** -/
theorem isArranged_mergeSort (column : String) (d : SortOrder) (rows : List Json.Fields) :
    IsArranged column d rows (rows.mergeSort (before column d)) := by
  have hordered := List.pairwise_mergeSort (before_trans column d) (before_total column d) rows
  refine ⟨List.mergeSort_perm _ _, ?_, ?_, fun v => ?_⟩
  · have hnone : ∀ a b, (!hasValue column a) = true → (!hasValue column b) = true →
        before column d a b = true := by
      intro a b _ hb
      rw [before_iff]
      intro w hw
      simp [hasValue, hw] at hb
    rw [← Sql.filter_mergeSort (before_trans column d) (before_total column d) hnone rows]
    refine eq_filter_append (hordered.imp fun {a b} hbefore hb => ?_)
    obtain ⟨w, hw⟩ := Option.isSome_iff_exists.1 hb
    obtain ⟨v, hv, -⟩ := (before_iff column d a b).1 hbefore w hw
    exact Option.isSome_iff_exists.2 ⟨v, hv⟩
  · rw [List.pairwise_filterMap]
    refine hordered.imp fun {a b} hbefore v hv w hw => ?_
    obtain ⟨v', hv', hlead⟩ := (before_iff column d a b).1 hbefore w hw
    rw [hv] at hv'
    exact Option.some.inj hv' ▸ hlead
  · refine Sql.filter_mergeSort (before_trans column d) (before_total column d) ?_ rows
    intro a b ha hb
    unfold isLevel at ha hb
    rw [Option.any_eq_true] at ha hb
    obtain ⟨u, hu, hlevel⟩ := ha
    obtain ⟨w, hw, hlevel'⟩ := hb
    rw [before_iff]
    intro w' hw'
    rw [hw] at hw'
    exact ⟨u, hu, Option.some.inj hw' ▸ leads_of_level hlevel hlevel'⟩

/-! ## The column -/

/-- The keys of the first row. -/
def firstKeys (rows : List Json.Fields) : List String :=
  (rows.head?.map fun first => first.map Prod.fst).getD []

/-- Candidates pick a column: it is the first of the first row's keys in the letters of some
candidate in any case, and no key is in those of a candidate before that one. -/
def Picks (words : List String) (rows : List Json.Fields) (column : String) : Prop :=
  ∃ earlier word later, words = earlier ++ word :: later ∧
    (∀ w ∈ earlier, ∀ key ∈ firstKeys rows, Text.lower key ≠ Text.lower w) ∧
    Text.IsFirst (firstKeys rows) word column

theorem sortColumn?_eq (words : List String) (rows : List Json.Fields) :
    sortColumn? words rows = words.findSome? fun word =>
      (firstKeys rows).find? fun key => Text.lower key == Text.lower word := by
  cases rows with
  | nil =>
    refine (List.findSome?_eq_none_iff.2 fun word _ => ?_).symm
    rfl
  | cons first rest => rfl

theorem sortColumn?_eq_none_iff {words : List String} {rows : List Json.Fields} :
    sortColumn? words rows = none ↔
      ∀ word ∈ words, ∀ key ∈ firstKeys rows, Text.lower key ≠ Text.lower word := by
  simp only [sortColumn?_eq, List.findSome?_eq_none_iff, List.find?_eq_none, beq_iff_eq, ne_eq]

theorem picks_of_sortColumn? {words : List String} {rows : List Json.Fields} {column : String}
    (h : sortColumn? words rows = some column) : Picks words rows column := by
  rw [sortColumn?_eq, List.findSome?_eq_some_iff] at h
  obtain ⟨earlier, word, later, hwords, hfound, hnone⟩ := h
  refine ⟨earlier, word, later, hwords, fun w hw key hkey heq => ?_,
    Text.find?_eq_some_iff.1 hfound⟩
  exact List.find?_eq_none.1 (hnone w hw) key hkey (beq_iff_eq.2 heq)

/-! ## Shaping -/

theorem shape_eq_take (p : Presentation) (rows : List Json.Fields) :
    p.shape rows = (p.sorted rows).take (p.limit.getD rows.length) := by
  unfold shape
  cases p.limit with
  | none => exact (List.take_of_length_le (Nat.le_of_eq (p.sorted_perm rows).length_eq)).symm
  | some n => rfl

/-- Rows with one set of keys. Those of each row ascend, as the keys of every object do. -/
structure HaveSameKeys (rows : List Json.Fields) : Prop where
  ascending : ∀ r ∈ rows, Json.Fields.IsAscending r
  same : ∀ r ∈ rows, ∀ s ∈ rows, r.map Prod.fst ⊆ s.map Prod.fst

theorem HaveSameKeys.keys_eq {rows : List Json.Fields} (h : HaveSameKeys rows)
    {r s : Json.Fields} (hr : r ∈ rows) (hs : s ∈ rows) : r.map Prod.fst = s.map Prod.fst :=
  List.SortedLT.eq_of_mem_iff (h.ascending r hr).sortedLT (h.ascending s hs).sortedLT fun _ =>
    ⟨fun hkey => h.same r hr s hs hkey, fun hkey => h.same s hs r hr hkey⟩

/-- Some of the rows are ordered by the column that all of them are. -/
theorem HaveSameKeys.sortColumn?_eq {rows part : List Json.Fields} (h : HaveSameKeys rows)
    (hpart : part ⊆ rows) (hne : part ≠ []) (words : List String) :
    sortColumn? words part = sortColumn? words rows := by
  obtain ⟨r, rest, rfl⟩ := List.exists_cons_of_ne_nil hne
  have hr : r ∈ rows := hpart List.mem_cons_self
  obtain ⟨s, others, rfl⟩ := List.exists_cons_of_ne_nil (List.ne_nil_of_mem hr)
  rw [Presentation.sortColumn?_eq, Presentation.sortColumn?_eq]
  unfold firstKeys
  rw [List.head?_cons, List.head?_cons, Option.map_some, Option.map_some,
    h.keys_eq hr List.mem_cons_self]

/-- The first of the ordered rows are in order. -/
theorem HaveSameKeys.sorted_take {rows : List Json.Fields} (h : HaveSameKeys rows)
    (p : Presentation) (n : Nat) : p.sorted ((p.sorted rows).take n) = (p.sorted rows).take n := by
  rcases eq_or_ne ((p.sorted rows).take n) [] with hnil | hne
  · rw [hnil]
    rfl
  · have hpart : (p.sorted rows).take n ⊆ rows := fun r hr =>
      (p.sorted_perm rows).mem_iff.1 (List.mem_of_mem_take hr)
    have hcolumn := h.sortColumn?_eq hpart hne p.sortCandidates
    generalize htake : (p.sorted rows).take n = part at hcolumn ⊢
    unfold sorted at htake ⊢
    rw [hcolumn]
    cases hfound : sortColumn? p.sortCandidates rows with
    | none => rfl
    | some column =>
      rw [hfound] at htake
      subst htake
      have hordered := List.pairwise_mergeSort (before_trans column p.sortOrder)
        (before_total column p.sortOrder) rows
      exact List.mergeSort_of_pairwise (hordered.sublist (List.take_sublist _ _))

/-- **Shaping rows with the same keys again changes nothing.** -/
theorem HaveSameKeys.shape_shape {rows : List Json.Fields} (h : HaveSameKeys rows)
    (p : Presentation) : p.shape (p.shape rows) = p.shape rows := by
  rw [shape_eq_take p (p.shape rows), shape_eq_take p rows, h.sorted_take]
  refine List.take_of_length_le ?_
  cases p.limit with
  | none => exact Nat.le_refl _
  | some n => exact List.length_take_le _ _

/-- **Shaping is a stable ordering and a cap.** Values of all kinds are in one order, in which any
two can be compared. The shaped rows are the first of an arrangement of all rows, as many as there
are or as the cap says: as they came where no candidate names a column of the first row, and
otherwise by the first column that a candidate names. Shaping rows with the same keys twice is
shaping them once. -/
theorem shape_arranges (p : Presentation) (rows : List Json.Fields) :
    (∀ a b, le a b = true ∨ le b a = true) ∧
      (∀ a b c, le a b = true → le b c = true → le a c = true) ∧
      (∃ arranged, p.shape rows = arranged.take (p.limit.getD rows.length) ∧
        (p.shape rows).length = min (p.limit.getD rows.length) rows.length ∧
        ((arranged = rows ∧ ∀ word ∈ p.sortCandidates, ∀ key ∈ firstKeys rows,
            Text.lower key ≠ Text.lower word) ∨
          ∃ column, Picks p.sortCandidates rows column ∧
            IsArranged column p.sortOrder rows arranged)) ∧
      (HaveSameKeys rows → p.shape (p.shape rows) = p.shape rows) := by
  refine ⟨le_total, fun a b c => le_trans, ⟨p.sorted rows, shape_eq_take p rows, ?_, ?_⟩,
    fun h => h.shape_shape p⟩
  · rw [shape_eq_take, List.length_take, (p.sorted_perm rows).length_eq]
  · unfold sorted
    cases hfound : sortColumn? p.sortCandidates rows with
    | none => exact .inl ⟨rfl, sortColumn?_eq_none_iff.1 hfound⟩
    | some column =>
      exact .inr ⟨column, picks_of_sortColumn? hfound, isArranged_mergeSort column p.sortOrder rows⟩

/-- Rows with prices of several kinds, one of them missing. -/
def priced : List Json.Fields :=
  [[("item", .text "Oil"), ("price", .null)], [("item", .text "Rice"), ("price", .integer 3)],
    [("item", .text "Salt"), ("price", .text "3")], [("item", .text "Tea"), ("price", .real 2.5)],
    [("item", .text "Wax"), ("price", .real 3)]]

/-- The four with the greatest price, asked for in a word that no row has and one in capitals. -/
def dearest : Presentation := ⟨["cost", "PRICE"], .descending, some 4⟩

theorem shape_arranges_dearest : HaveSameKeys priced ∧
    dearest.shape (dearest.shape priced) = dearest.shape priced := by
  have hkeys : HaveSameKeys priced := by
    refine ⟨?_, by decide +kernel⟩
    unfold Json.Fields.IsAscending
    decide +kernel
  exact ⟨hkeys, (shape_arranges dearest priced).2.2.2 hkeys⟩

end SalesLedger.Presentation
