import SalesLedger.Presentation
import SalesLedger.Proofs.LetterCase

/-!
# The column of a chart

A presentation picks the column that it orders by from the names of the first row, by the words in
which a caller asked for the measure. `eq_name_of_sortColumn?`: of rows with a category and a
measure it picks the measure, or none. The words have resolved to the measure, with blanks around
them left out; a presentation leaves none out, and then finds no column at all.
-/

namespace SalesLedger.Query

/-- The names that rows with a category and a measure can have. -/
def rowNames : List String :=
  totalSales :: Sale.columns

/-- They are in lower case, without blanks. -/
theorem lower_rowName : ∀ key ∈ rowNames, Text.lower key = key ∧
    key.toList.any Text.isBlank = false := by
  decide +kernel

/-- Words for a row's name, as a presentation compares them: its lowercase form, with no blanks to
leave out. -/
theorem lower_of_match {key word : String} (hkey : key ∈ rowNames)
    (h : (Text.lower key == Text.lower word) = true) :
    Text.lower word = key ∧ Text.trim word = word := by
  obtain ⟨hlower, hblank⟩ := lower_rowName key hkey
  have hword : Text.lower word = key := by
    rw [beq_iff_eq, hlower] at h
    exact h.symm
  exact ⟨hword, Text.trim_of_lower hword hblank⟩

theorem lower_of_meansRevenue {y : String} (h : meansRevenue y = true) :
    Text.lower y = totalSales := by
  have htotal : Text.lowerAscii totalSales = totalSales := by decide +kernel
  exact Text.lower_of_lowerAscii ((Text.equalAscii_iff.1 h).trans htotal) (by decide +kernel)

/-- What resolves to the price is the price in some case, unless blanks are around it. -/
theorem equalAscii_price {y : String} (h : Text.lower y = priceColumn) :
    Text.equalAscii y priceColumn = true :=
  Text.equalAscii_of_lower h (by decide +kernel) (by decide +kernel)

/-- A name that resolves has the lowercase form of its column. -/
theorem lower_of_resolve? {y c : String} (h : Schema.resolve? ⟨Sale.columns⟩ y = some c) :
    c ∈ Sale.columns ∧ Text.lower (Text.trim y) = c := by
  have hmem := Schema.mem_of_resolve? h
  refine ⟨hmem, ?_⟩
  unfold Schema.resolve? at h
  dsimp only at h
  split at h
  · cases h
  · have hfound := List.find?_some h
    have hlower := (lower_rowName c (List.mem_cons_of_mem _ hmem)).1
    rw [beq_iff_eq, hlower] at hfound
    exact hfound.symm

/-- How a measure is asked for. -/
theorem measure?_cases {p : ParameterSet} {m : Measure}
    (h : measure? p ⟨Sale.columns⟩ = some m) : ∃ y, p.yAxis = some y ∧
      ((m = .revenue ∧ Text.lower y = totalSales) ∨
        (m = .revenue ∧ Text.lower (Text.trim y) = priceColumn ∧ p.aggregation = .sum) ∨
        ∃ c ∈ Sale.columns, m = .column c ∧ Text.lower (Text.trim y) = c) := by
  unfold measure? at h
  cases hy : p.yAxis with
  | none =>
    rw [hy] at h
    cases h
  | some y =>
    refine ⟨y, rfl, ?_⟩
    rw [hy, Option.bind_some] at h
    split at h
    · rename_i hrevenue
      exact .inl ⟨(Option.some.inj h).symm, lower_of_meansRevenue hrevenue⟩
    · rename_i hrevenue
      rw [column?, Option.bind_some, if_neg hrevenue, Option.map_eq_some_iff] at h
      obtain ⟨c, hc, hm⟩ := h
      obtain ⟨hmem, hlower⟩ := lower_of_resolve? hc
      split at hm
      · rename_i hprice
        rw [Bool.and_eq_true, decide_eq_true_iff] at hprice
        have hc' : c = priceColumn :=
          (by decide +kernel : ∀ c ∈ Sale.columns, Text.equalAscii c priceColumn = true →
            c = priceColumn) c hmem hprice.1
        exact .inr (.inl ⟨hm.symm, hlower.trans hc', hprice.2⟩)
      · exact .inr (.inr ⟨c, hmem, hm.symm, hlower⟩)

/-- The first name of a row that a word means to a presentation. -/
def pick? (first : Json.Fields) (word : String) : Option String :=
  (first.map Prod.fst).find? fun key => Text.lower key == Text.lower word

theorem sortColumn?_cons (words : List String) (first : Json.Fields) (rest : List Json.Fields) :
    Presentation.sortColumn? words (first :: rest) = words.findSome? (pick? first) := rfl

/-- The words that a presentation without a column to sort by goes by. -/
theorem sortCandidates_eq {p : ParameterSet} {y : String} (hsort : p.sortBy = none)
    (hy : p.yAxis = some y) : (Presentation.forChart p).sortCandidates =
      if Text.equalAscii y priceColumn && p.aggregation = .sum then [totalSales, y] else [y] := by
  unfold Presentation.forChart
  rw [hsort, hy]
  rfl

variable {p : ParameterSet} {x : String} {m : Measure} {first : Json.Fields}

theorem name_mem_rowNames (hm : measure? p ⟨Sale.columns⟩ = some m) : m.name ∈ rowNames := by
  obtain ⟨y, -, ⟨rfl, -⟩ | ⟨rfl, -⟩ | ⟨c, hc, rfl, -⟩⟩ := measure?_cases hm
  · exact List.mem_cons_self
  · exact List.mem_cons_self
  · exact List.mem_cons_of_mem _ hc

theorem pick?_some (hm : measure? p ⟨Sale.columns⟩ = some m) (hx : x ∈ Sale.columns)
    (hkeys : ∀ key ∈ first.map Prod.fst, key = x ∨ key = m.name) {word key : String}
    (h : pick? first word = some key) :
    (key = x ∨ key = m.name) ∧ Text.lower word = key ∧ Text.trim word = word := by
  have hkey := hkeys key (List.mem_of_find?_eq_some h)
  have hmem : key ∈ rowNames := by
    rcases hkey with rfl | rfl
    · exact List.mem_cons_of_mem _ hx
    · exact name_mem_rowNames hm
  have hmatch := List.find?_some h
  exact ⟨hkey, lower_of_match hmem hmatch⟩

/-- The revenue is no category. -/
theorem eq_name_of_pick?_total (hm : measure? p ⟨Sale.columns⟩ = some m) (hx : x ∈ Sale.columns)
    (hkeys : ∀ key ∈ first.map Prod.fst, key = x ∨ key = m.name) {key : String}
    (h : pick? first totalSales = some key) : key = m.name := by
  obtain ⟨hkey | hkey, hlower, -⟩ := pick?_some hm hx hkeys h
  · have htotal : Text.lower totalSales = totalSales := (lower_rowName _ List.mem_cons_self).1
    rw [htotal] at hlower
    subst hkey hlower
    exact absurd hx (by decide +kernel)
  · exact hkey

/-- The words for a measure mean the measure, unless they are the price and mean the revenue. -/
theorem eq_name_of_pick? (hm : measure? p ⟨Sale.columns⟩ = some m) (hx : x ∈ Sale.columns)
    (hkeys : ∀ key ∈ first.map Prod.fst, key = x ∨ key = m.name) {y key : String}
    (hy : p.yAxis = some y)
    (hprice : m = .revenue → Text.equalAscii y priceColumn = true → p.aggregation ≠ .sum)
    (h : pick? first y = some key) : key = m.name := by
  obtain ⟨-, hlower, htrim⟩ := pick?_some hm hx hkeys h
  obtain ⟨y', hy', hasked⟩ := measure?_cases hm
  obtain rfl : y = y' := Option.some.inj (hy.symm.trans hy')
  rw [htrim] at hasked
  rcases hasked with ⟨rfl, hrevenue⟩ | ⟨rfl, hword, hsum⟩ | ⟨c, -, rfl, hc⟩
  · exact hlower.symm.trans hrevenue
  · exact absurd hsum (hprice rfl (equalAscii_price hword))
  · exact hlower.symm.trans hc

/-- **Of rows with a category and a measure, a presentation picks the measure, or no column.** -/
theorem eq_name_of_sortColumn? (hm : measure? p ⟨Sale.columns⟩ = some m) (hsort : p.sortBy = none)
    (hx : x ∈ Sale.columns) (hkeys : ∀ key ∈ first.map Prod.fst, key = x ∨ key = m.name)
    (hname : m.name ∈ first.map Prod.fst) (rest : List Json.Fields) :
    ∀ column ∈ Presentation.sortColumn? (Presentation.forChart p).sortCandidates (first :: rest),
      column = m.name := by
  intro column hcolumn
  obtain ⟨y, hy, -⟩ := measure?_cases hm
  rw [sortColumn?_cons, sortCandidates_eq hsort hy] at hcolumn
  split at hcolumn
  · rw [List.findSome?_cons] at hcolumn
    cases hpick : pick? first totalSales with
    | some key =>
      rw [hpick] at hcolumn
      obtain rfl := Option.some.inj hcolumn
      exact eq_name_of_pick?_total hm hx hkeys hpick
    | none =>
      -- the revenue would have been found
      have hne : m ≠ .revenue := by
        rintro rfl
        exact List.find?_eq_none.1 hpick totalSales hname (beq_self_eq_true _)
      rw [hpick, List.findSome?_singleton] at hcolumn
      exact eq_name_of_pick? hm hx hkeys hy (fun hrevenue => absurd hrevenue hne) hcolumn
  · rename_i hnot
    rw [List.findSome?_singleton] at hcolumn
    refine eq_name_of_pick? hm hx hkeys hy (fun _ hprice hsum => hnot ?_) hcolumn
    rw [hprice, hsum]
    rfl

end SalesLedger.Query
