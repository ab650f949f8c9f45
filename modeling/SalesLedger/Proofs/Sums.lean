import Mathlib.Algebra.GroupWithZero.Nat
import Mathlib.Algebra.Order.BigOperators.Group.List
import Mathlib.Algebra.Ring.Int.Defs
import SalesLedger.Proofs.Counting
import SalesLedger.Proofs.GroupMeasures
import SalesLedger.Proofs.RoundTrip

/-!
# Sums by group

What an analysis answers that sums up a count by another column. `sums_partitioned`: its records
share out the sales that it is for. Each value that the sales show under the column has one record,
and the record has the exact sum over the sales that show it; so the sums of all records are the
sum over all sales, whichever column they are grouped by.

* `apply_sum_of_addsUp`, `apply_sum_of_not_addsUp`: whole numbers add up exactly, unless a sum of
  the first of them leaves 64 bits.
* `shown_eq_iff`: sales show one value under a column where the engine has one key for their cells.
* `flatten_groupsOf_perm`: grouping loses and adds nothing.
* `partitions_groups`: the records of all groups share out the sales.
-/

namespace SalesLedger

open Storage Sql Ledger

/-! ## Counts -/

namespace Query

/-- The columns of counts. -/
def countColumns : List String := ["quantity_in_stock", soldColumn]

end Query

/-- The count of a sale under one of them. -/
def Sale.count (s : Sale) (y : String) : Int :=
  if y = Query.soldColumn then s.sold else s.inStock

/-- The sum of a count over some sales. -/
def totalOf (y : String) (sales : List Sale) : Int :=
  (sales.map (Sale.count · y)).sum

/-- The sum of its magnitudes. -/
def reachOf (y : String) (sales : List Sale) : Nat :=
  (sales.map fun s => (s.count y).natAbs).sum

variable {x y : String} {sales : List Sale}

theorem Sale.cell_count (hy : y ∈ Query.countColumns) (s : Sale) :
    s.cell y = .integer (s.count y) := by
  simp only [Query.countColumns, List.mem_cons, List.not_mem_nil, or_false] at hy
  rcases hy with rfl | rfl <;> rfl

theorem natAbs_sum_le (ns : List Int) : ns.sum.natAbs ≤ (ns.map Int.natAbs).sum := by
  induction ns with
  | nil => exact Nat.le_refl 0
  | cons n ns ih =>
    rw [List.sum_cons, List.map_cons, List.sum_cons]
    exact Nat.le_trans (Int.natAbs_add_le _ _) (Nat.add_le_add_left ih _)

namespace Sql

/-- No sum of the first of some whole numbers, however many they are, leaves 64 bits. -/
def AddsUp (ns : List Int) : Prop := ∀ k, Fits64 (ns.take k).sum

/-- What has left 64 bits stays a fault, whatever whole numbers follow. -/
theorem Total.foldl_overflowed (ns : List Int) (s : Compensated) :
    ∃ s', (ns.map Cell.integer).foldl Total.add (.approximate s true) = .approximate s' true := by
  induction ns generalizing s with
  | nil => exact ⟨s, rfl⟩
  | cons n ns ih => exact ih (s.addInt n)

/-- **A total leaves 64 bits** with the first sum that does. -/
theorem Total.foldl_of_not_fits {ns : List Int} {m : Int} (hm : Fits64 m)
    (h : ∃ k, ¬ Fits64 (m + (ns.take k).sum)) :
    ∃ s, (ns.map Cell.integer).foldl Total.add (.whole m) = .approximate s true := by
  induction ns generalizing m with
  | nil =>
    obtain ⟨k, hk⟩ := h
    rw [List.take_nil, List.sum_nil, Int.add_zero] at hk
    exact absurd hm hk
  | cons n ns ih =>
    show ∃ s, (ns.map Cell.integer).foldl Total.add
      (if Fits64 (m + n) then .whole (m + n) else .approximate _ true) = _
    split
    · rename_i hfits
      obtain ⟨k, hk⟩ := h
      refine ih hfits ?_
      cases k with
      | zero =>
        rw [List.take_zero, List.sum_nil, Int.add_zero] at hk
        exact absurd hm hk
      | succ k =>
        rw [List.take_succ_cons, List.sum_cons, ← Int.add_assoc] at hk
        exact ⟨k, hk⟩
    · exact foldl_overflowed ns _

/-- Whole numbers count wherever they are summed up. -/
theorem apply_sum_integers (ns : List Int) :
    Aggregate.sum.apply (ns.map Cell.integer) = Aggregate.sumOf (ns.map Cell.integer) := by
  have hpresent : (ns.map Cell.integer).filter Cell.isPresent = ns.map Cell.integer := by
    refine List.filter_eq_self.2 fun c hc => ?_
    obtain ⟨n, -, rfl⟩ := List.mem_map.1 hc
    rfl
  rw [Aggregate.apply, hpresent]

/-- **Whole numbers add up exactly** where no sum of the first of them leaves 64 bits. -/
theorem apply_sum_of_addsUp {ns : List Int} (hne : ns ≠ []) (h : AddsUp ns) :
    Aggregate.sum.apply (ns.map Cell.integer) = .ok (.integer ns.sum) := by
  have hfits : ∀ k, k ≤ ns.length → Fits64 ((ns.take k).foldl (· + ·) 0) := fun k _ => by
    rw [← List.sum_eq_foldl]
    exact h k
  have htotal : Total.of (ns.map Cell.integer) = .whole ns.sum := by
    rw [Total.of, Total.foldl_whole ns 0 hfits, ← List.sum_eq_foldl]
  rw [apply_sum_integers, Aggregate.sumOf, if_neg (by simpa using hne), htotal]

/-- **Where one does, they have no sum**, even if the sum of all fits. -/
theorem apply_sum_of_not_addsUp {ns : List Int} (h : ¬ AddsUp ns) :
    Aggregate.sum.apply (ns.map Cell.integer) = .error (.noValue .integerOverflow) := by
  obtain ⟨k, hk⟩ := not_forall.1 h
  have hne : ns ≠ [] := by
    rintro rfl
    rw [List.take_nil] at hk
    exact hk (by decide)
  obtain ⟨s, htotal⟩ := Total.foldl_of_not_fits (m := 0) (by decide)
    ⟨k, by rwa [Int.zero_add]⟩
  rw [apply_sum_integers, Aggregate.sumOf, if_neg (by simpa using hne), Total.of, htotal]
  exact if_pos rfl

/-- Whole numbers add up where their magnitudes add up to 63 bits. -/
theorem addsUp_of_reach {ns : List Int} (h : (ns.map Int.natAbs).sum ≤ 0x7fffffffffffffff) :
    AddsUp ns := by
  intro k
  have hprefix : ((ns.take k).map Int.natAbs).sum ≤ (ns.map Int.natAbs).sum :=
    ((List.take_sublist k ns).map Int.natAbs).sum_le_sum fun _ _ => Nat.zero_le _
  have hbound := natAbs_sum_le (ns.take k)
  unfold Fits64
  omega

end Sql

/-! ## What sales show -/

namespace Sale

/-- What a sale shows under a column is its cell there. -/
theorem get?_fields {c : String} (hc : c ∈ columns) (s : Sale) :
    s.fields.get? c = some (s.cell c).toJson := by
  simp only [columns, List.mem_cons, List.not_mem_nil, or_false] at hc
  rcases hc with rfl | rfl | rfl | rfl | rfl
  · rfl
  · exact congrArg some s.toJson_price.symm
  · rfl
  · rfl
  · rfl

/-- The key of a price is its number of units. -/
theorem key_price {s : Sale} (h : s.price.isFinite = true) :
    (s.cell Query.priceColumn).key = .number (Decimal.Binary64.units s.price) := by
  have hnumber := Decimal.Binary64.not_isNaN_of_isFinite h
  show (Affinity.oneZero (Cell.ofFloat s.price)).key = _
  rw [Cell.ofFloat, hnumber, if_neg Bool.false_ne_true, Affinity.oneZero]
  split
  · rename_i hzero
    rw [hzero]
    decide +kernel
  · rfl

/-- Finite prices are shown alike where they have as many units. -/
theorem shownPrice_eq_iff {s s' : Sale} (h : s.price.isFinite = true)
    (h' : s'.price.isFinite = true) : s.shownPrice = s'.shownPrice ↔
      Decimal.Binary64.units s.price = Decimal.Binary64.units s'.price := by
  have hshown : ∀ price : Float, Decimal.Binary64.units (if price = -0.0 then 0 else price) =
      Decimal.Binary64.units price := by
    intro price
    split
    · rename_i hzero
      rw [hzero]
      decide +kernel
    · rfl
  rw [shownPrice, shownPrice, if_pos h, if_pos h', Json.real.injEq]
  constructor
  · intro heq
    rw [← hshown s.price, heq, hshown]
  · intro hunits
    by_cases hzero : Decimal.Binary64.units s.price = 0
    · -- of the two zeros one is shown
      have hone : ∀ price : Float, Decimal.Binary64.units price = 0 →
          (if price = -0.0 then 0 else price) = 0 := by
        intro price hprice
        rcases Decimal.Binary64.units_eq_zero_iff.1 hprice with rfl | rfl
        · decide +kernel
        · exact if_pos rfl
      rw [hone _ hzero, hone _ (hunits ▸ hzero)]
    · rw [Decimal.Binary64.eq_of_units hunits hzero]

/-- **Sales show one value under a column where their cells have one key.** -/
theorem shown_eq_iff {c : String} (hc : c ∈ columns) {s s' : Sale} (h : s.price.isFinite = true)
    (h' : s'.price.isFinite = true) :
    s.fields.get? c = s'.fields.get? c ↔ (s.cell c).key = (s'.cell c).key := by
  have hwhole : ∀ m n : Int, Decimal.Binary64.unitsOfInt m = Decimal.Binary64.unitsOfInt n ↔
      m = n := by
    intro m n
    rw [le_antisymm_iff, le_antisymm_iff, Decimal.Binary64.units_ofInt_le_iff,
      Decimal.Binary64.units_ofInt_le_iff]
  simp only [columns, List.mem_cons, List.not_mem_nil, or_false] at hc
  rcases hc with rfl | rfl | rfl | rfl | rfl
  · show some (Json.text _) = some (Json.text _) ↔ Cell.Key.text _ [] = Cell.Key.text _ []
    simp
  · show some s.shownPrice = some s'.shownPrice ↔ _
    rw [Option.some.injEq, shownPrice_eq_iff h h']
    show _ ↔ (s.cell Query.priceColumn).key = (s'.cell Query.priceColumn).key
    rw [key_price h, key_price h', Cell.Key.number.injEq]
  · show some (Json.integer _) = some (Json.integer _) ↔
      Cell.Key.number (Decimal.Binary64.unitsOfInt _) = .number (Decimal.Binary64.unitsOfInt _)
    simp [hwhole]
  · show some (Json.integer _) = some (Json.integer _) ↔
      Cell.Key.number (Decimal.Binary64.unitsOfInt _) = .number (Decimal.Binary64.unitsOfInt _)
    simp [hwhole]
  · show some (Json.text _) = some (Json.text _) ↔ Cell.Key.text _ [] = Cell.Key.text _ []
    simp

end Sale

/-! ## Groups -/

/-- **Grouping loses and adds nothing.** -/
theorem Sql.flatten_groupsOf_perm {α : Type} (key : α → Cell) (xs : List α) :
    (groupsOf key xs).flatten.Perm xs := by
  have hordered : (groupsOf key (order .ascending key xs)).flatten = order .ascending key xs := by
    rw [← runs_of_ordered key (order_pairwise key .ascending xs), runs_flatten]
  have hgroups := (groupsOf_order_perm key .ascending xs).symm.flatten
  rw [hordered] at hgroups
  exact hgroups.trans (order_perm .ascending key xs)

theorem sum_totalOf_groups (key : Sale → Cell) (y : String) (sales : List Sale) :
    ((groupsOf key sales).map (totalOf y)).sum = totalOf y sales := by
  have hperm := (flatten_groupsOf_perm key sales).map (Sale.count · y)
  rw [List.map_flatten] at hperm
  rw [totalOf, ← hperm.sum_eq, List.sum_flatten, List.map_map]
  rfl

/-! ## Records that share out sales -/

open Classical in
/-- The sales that show a value under a column. -/
noncomputable def showing (x : String) (v : Option Json) (sales : List Sale) : List Sale :=
  sales.filter fun s => s.fields.get? x = v

/-- The whole number that a record has under a column. -/
def measuredIn (y : String) (r : Json.Fields) : Int :=
  match r.get? y with
  | some (.integer n) => n
  | _ => 0

/-- Records that share out some sales by a column, with the sums of a count. -/
structure Partitions (x y : String) (sales : List Sale) (records : List Json.Fields) : Prop where
  /-- No value of the column has two records. -/
  distinct : (records.map (Json.Fields.get? x)).Nodup
  /-- The values of the records are those that the sales show. -/
  values : ∀ v, v ∈ records.map (Json.Fields.get? x) ↔ v ∈ sales.map fun s => s.fields.get? x
  /-- A record has the sum over the sales that show its value. -/
  sums : ∀ r ∈ records, r.get? y = some (.integer (totalOf y (showing x (r.get? x) sales)))
  /-- The records have the sum over all sales between them. -/
  whole : (records.map (measuredIn y)).sum = totalOf y sales

theorem Partitions.perm {records records' : List Json.Fields} (h : Partitions x y sales records)
    (hperm : records.Perm records') : Partitions x y sales records' where
  distinct := (hperm.map _).nodup_iff.1 h.distinct
  values := fun v => by rw [← (hperm.map _).mem_iff, h.values]
  sums := fun r hr => h.sums r (hperm.mem_iff.2 hr)
  whole := by rw [← (hperm.map _).sum_eq, h.whole]

namespace Query

/-- The record of a group of sales: the value that they share, and the sum of a count. -/
def sumRecord (x y : String) (group : List Sale) : Json.Fields :=
  Service.record x y [groupCell x group, .integer (totalOf y group)]

theorem get?_sumRecord_count (hy : y ∈ countColumns) (group : List Sale) :
    (sumRecord x y group).get? y = some (.integer (totalOf y group)) := by
  have hdate : y ≠ dateColumn := by
    rintro rfl
    exact absurd hy (by decide)
  rw [sumRecord, Service.get?_record, Presentation.dated_of_ne hdate]
  rfl

theorem get?_sumRecord_value (hx : x ∈ Sale.columns) (hxy : x ≠ y) (s : Sale)
    (rest : List Sale) : (sumRecord x y (s :: rest)).get? x = s.fields.get? x := by
  rw [sumRecord, Service.record_eq, Json.Fields.get?_put_of_ne hxy, Json.Fields.get?_put_self,
    Sale.get?_fields hx]
  exact congrArg some (Service.dated_cell s x)

/-- **The records of all groups share out the sales.** -/
theorem partitions_groups (hx : x ∈ Sale.columns) (hy : y ∈ countColumns) (hxy : x ≠ y)
    (hfinite : ∀ s ∈ sales, s.price.isFinite = true) :
    Partitions x y sales ((groupsOf (Sale.cell · x) sales).map (sumRecord x y)) := by
  -- the record of a key shows what each sale of the key shows
  have hvalue : ∀ s ∈ sales,
      (sumRecord x y (withKey (Sale.cell · x) sales (s.cell x).key)).get? x = s.fields.get? x := by
    intro s hs
    have hmem : s ∈ withKey (Sale.cell · x) sales (s.cell x).key :=
      List.mem_filter.2 ⟨hs, decide_eq_true rfl⟩
    obtain ⟨first, rest, hgroup⟩ := List.exists_cons_of_ne_nil (List.ne_nil_of_mem hmem)
    have hfirst : first ∈ withKey (Sale.cell · x) sales (s.cell x).key :=
      hgroup ▸ List.mem_cons_self
    obtain ⟨hfirst, hkey⟩ := List.mem_filter.1 hfirst
    rw [hgroup, get?_sumRecord_value hx hxy,
      Sale.shown_eq_iff hx (hfinite first hfirst) (hfinite s hs)]
    exact of_decide_eq_true hkey
  have hkeys : ∀ k ∈ keysOf (Sale.cell · x) sales, ∃ s ∈ sales, (s.cell x).key = k :=
    fun k hk => (mem_keysOf _).1 hk
  constructor
  · rw [groupsOf, List.map_map, List.map_map]
    refine (nodup_keysOf _ sales).map_on fun k hk k' hk' hsame => ?_
    obtain ⟨s, hs, rfl⟩ := hkeys k hk
    obtain ⟨s', hs', rfl⟩ := hkeys k' hk'
    rw [← Sale.shown_eq_iff hx (hfinite s hs) (hfinite s' hs'), ← hvalue s hs, ← hvalue s' hs']
    exact hsame
  · intro v
    rw [groupsOf, List.map_map, List.map_map, List.mem_map, List.mem_map]
    constructor
    · rintro ⟨k, hk, rfl⟩
      obtain ⟨s, hs, rfl⟩ := hkeys k hk
      exact ⟨s, hs, (hvalue s hs).symm⟩
    · rintro ⟨s, hs, rfl⟩
      exact ⟨_, (mem_keysOf _).2 ⟨s, hs, rfl⟩, hvalue s hs⟩
  · intro r hr
    obtain ⟨group, hgroup, rfl⟩ := List.mem_map.1 hr
    obtain ⟨k, hk, rfl⟩ := List.mem_map.1 hgroup
    obtain ⟨s, hs, rfl⟩ := hkeys k hk
    have hgroup : showing x (s.fields.get? x) sales =
        withKey (Sale.cell · x) sales (s.cell x).key := by
      refine List.filter_congr fun s' hs' => ?_
      rw [decide_eq_decide]
      exact Sale.shown_eq_iff hx (hfinite s' hs') (hfinite s hs)
    rw [get?_sumRecord_count hy, hvalue s hs, hgroup]
  · have hmeasured : ∀ group, measuredIn y (sumRecord x y group) = totalOf y group := by
      intro group
      rw [measuredIn, get?_sumRecord_count hy]
    rw [List.map_map, ← sum_totalOf_groups (Sale.cell · x)]
    exact congrArg List.sum (List.map_congr_left fun group _ => hmeasured group)

/-! ## Answers -/

section Measures

variable {p : ParameterSet} {group : List Sale} (hy : y ∈ countColumns)
  (hsum : p.aggregation = .sum)

include hy hsum

/-- A group measures the sum of its counts, or a fault. -/
theorem measureOf_counts (group : List Sale) : measureOf p (.column y) group =
    Aggregate.sum.apply ((group.map (Sale.count · y)).map Cell.integer) := by
  have hcells : group.map (Sale.cell · y) = (group.map (Sale.count · y)).map Cell.integer := by
    rw [List.map_map]
    exact List.map_congr_left fun s _ => s.cell_count hy
  rw [← hcells, measureOf, hsum]
  rfl

theorem measured_of_addsUp (hne : group ≠ []) (h : AddsUp (group.map (Sale.count · y))) :
    measured p (.column y) group = .ok (group, .integer (totalOf y group)) := by
  rw [measured, measureOf_counts hy hsum, apply_sum_of_addsUp (by simpa using hne) h]
  rfl

theorem measured_of_not_addsUp (h : ¬ AddsUp (group.map (Sale.count · y))) :
    measured p (.column y) group = .error (.noValue .integerOverflow) := by
  rw [measured, measureOf_counts hy hsum, apply_sum_of_not_addsUp h]
  rfl

end Measures

section Answers

variable {p : ParameterSet} {s : Select} (hs : Asks p x (.column y) s)
  (ha : AreFound x (.column y)) (hy : y ∈ countColumns) (hsum : p.aggregation = .sum)

include hs ha hy hsum

/-- **A query for sums answers with a row for each group** of the sales that it takes. -/
theorem rows_of_sums (hlimit : s.limit = none)
    (hreach : reachOf y (passing s sales) ≤ 0x7fffffffffffffff) :
    ∃ cells, s.rows (ofSales sales) = .ok cells ∧ (cells.map (Service.record x y)).Perm
      ((groupsOf (Sale.cell · x) (passing s sales)).map (sumRecord x y)) := by
  have hsummed : isSummed p (.column y) = true := by
    unfold isSummed
    rw [hsum]
    rfl
  have hperm := arrangedGroups_perm (p := p) (x := x) (m := .column y) s sales
  rw [groupsFor, hsummed, if_pos rfl] at hperm
  have hmeasured : ∀ group ∈ arrangedGroups p x (.column y) s sales,
      measured p (.column y) group = .ok (group, .integer (totalOf y group)) := by
    intro group hgroup
    have hmem := hperm.mem_iff.1 hgroup
    obtain ⟨k, -, rfl⟩ := List.mem_map.1 hmem
    have hpart : reachOf y (withKey (Sale.cell · x) (passing s sales) k) ≤
        reachOf y (passing s sales) :=
      (List.filter_sublist.map _).sum_le_sum fun _ _ => Nat.zero_le _
    refine measured_of_addsUp hy hsum (ne_nil_of_mem_groupsOf _ hmem) (addsUp_of_reach ?_)
    rw [List.map_map]
    exact Nat.le_trans hpart hreach
  have hcells := mapM_cellsOf hs ha sales
  rw [mapM_eq_ok hmeasured] at hcells
  obtain ⟨cells, hrows, hcells⟩ := Select.rows_of_cells hlimit hcells
  refine ⟨cells, hrows, (hcells.map _).trans ?_⟩
  rw [List.map_map, List.map_map]
  exact hperm.map _

end Answers

/-! ## Questions -/

/-- A question for the sums of a count by another column, over the days of a period, if one is
named, and one item, if one is wanted. It may be in any order. -/
structure IsForSums (p : ParameterSet) (x y : String) (wanted : Option String) : Prop where
  category : category? p ⟨Sale.columns⟩ = some x
  measure : measure? p ⟨Sale.columns⟩ = some (.column y)
  count : y ∈ countColumns
  apart : x ≠ y
  aggregation : p.aggregation = .sum
  limit : p.limit = none
  sales : IsForSales { p with xAxis := none, yAxis := none, sortBy := none } wanted

end Query

namespace Service

open Query History

/-- **Sums by group share out the ledger.** After any run of operations, where a count is summed up
by another column, the records of an analysis share out the sales that it is for: every value that
they show under the column has one record with the exact sum over the sales that show it, and the
sums add up to that of all. The magnitudes of the counts have to add up to 63 bits. -/
theorem sums_partitioned {config : Config} {d₀ : Disk} (h : Begins config d₀)
    (hworking : d₀.isDirectory d₀.working = true) (steps : List Step) (t : Tenant)
    (hpath : Store.HasShortPath config t) :
    ∃ landed, ((history config d₀ steps).filter Event.succeeded).Sublist landed ∧
      landed.Sublist (history config d₀ steps) ∧
      ∀ (today : Calendar.Date) (p : ParameterSet) (x y : String) (wanted : Option String),
        IsForSums p x y wanted → 1 ≤ today.year → today.year ≤ 9999 →
        (∀ sale ∈ landed.flatMap (Event.batch t),
          sale.date.HasPlainYear ∧ sale.price.isFinite = true) →
        reachOf y ((landed.flatMap (Event.batch t)).filter (isAsked p wanted today)) ≤
          0x7fffffffffffffff →
        Partitions x y ((landed.flatMap (Event.batch t)).filter (isAsked p wanted today))
          (analysis config (after config d₀ steps) today t p) := by
  obtain ⟨landed, hok, hlanded, hheld⟩ := exists_landed h steps
  refine ⟨landed, hok, hlanded, fun today p x y wanted hp hyear hyear' hsales hreach => ?_⟩
  have hledger := hheld t
  have hreadable : landed.flatMap (Event.batch t) ≠ [] →
      (Store.schema config (after config d₀ steps) t).columns ≠ [] :=
    fun hsales => columns_ne_nil_after h hworking steps hpath hsales hledger
  generalize landed.flatMap (Event.batch t) = sales at *
  generalize after config d₀ steps = d at *
  have ha : AreFound x (.column y) := areFound_of_found hp.category hp.measure
  have hasked : passing (compiled p ⟨Sale.columns⟩ today .lenient).select sales =
      sales.filter (isAsked p wanted today) := by
    rw [passing_compiled]
    exact List.filter_congr fun sale hsale =>
      conditions_meet hp.sales hyear hyear' (hsales sale hsale).1
  have hfinite : ∀ s ∈ sales.filter (isAsked p wanted today), s.price.isFinite = true :=
    fun s hs => (hsales s (List.mem_filter.1 hs).1).2
  have hgroups := partitions_groups ha.category hp.count hp.apart hfinite
  by_cases hcolumns : (Store.schema config d t).columns = []
  · -- what cannot be read has no sales
    obtain rfl : sales = [] := by
      by_contra hsales
      exact hreadable hsales hcolumns
    rw [analysis_of_no_columns h.directory hledger hcolumns]
    exact hgroups
  · obtain ⟨-, hschema, -⟩ := Store.rows_of_held h.directory hledger hcolumns
    have hs := asks_compiled hp.category hp.measure today .lenient
    obtain ⟨cells, hrows, hperm⟩ := rows_of_sums hs ha hp.count hp.aggregation hp.limit
      (hasked ▸ hreach)
    unfold analysis
    rw [fetch_eq h.directory hledger hcolumns rfl
      (outputNames_of_outputs (hschema ▸ hs.outputs) ha), hschema, hrows]
    rw [hasked] at hperm
    exact hgroups.perm hperm.symm

/-- The question how much of each item was sold in the last month, by the days of the sales. -/
def soldLastMonth : ParameterSet where
  xAxis := some "Item"
  yAxis := some "quantity_sold"
  aggregation := .sum
  filterColumn := none
  filterValue := none
  sortBy := some "sale_date"
  sortOrder := .ascending
  limit := none
  timePeriod := some "last_month"

/-- Oil and rice were sold in January; seen from February, they share out the sales. -/
theorem sums_partitioned_soldLastMonth :
    Partitions "item" "quantity_sold" [oil, rice]
      (analysis shop oilThenRice marketDay vendor soldLastMonth) := by
  obtain ⟨landed, hok, hlanded, hsums⟩ := sums_partitioned begins_blank (by decide)
    [⟨.record vendor [oil, rice], []⟩] vendor (by unfold Store.HasShortPath; decide)
  rw [landed_oilThenRice hok hlanded] at hsums
  have hparse : Calendar.Period.parse "last_month" = .ok .lastMonth := by decide
  have hquestion : IsForSums soldLastMonth "item" "quantity_sold" none := by
    refine ⟨by decide +kernel, by decide +kernel, by decide, by decide, rfl, rfl, rfl, rfl, rfl,
      ?_, .inl rfl⟩
    rintro token ⟨⟩ period hperiod
    rw [hparse] at hperiod
    cases hperiod
    trivial
  have hsales : ∀ sale ∈ [oil, rice],
      sale.date.HasPlainYear ∧ sale.price.isFinite = true := by
    unfold Calendar.Date.HasPlainYear
    decide
  exact hsums marketDay soldLastMonth "item" "quantity_sold" none hquestion (by decide)
    (by decide) hsales (by decide)

end Service

end SalesLedger
