import SalesLedger.Proofs.Sorting

/-!
# Two columns

A strict caller's rows have two columns, the category and the measure, and their records have a
field for each: `strict_two_columns`. Only where a column is measured by itself the two have one
name, and the record has the measure alone.

* `exists_group_of_mem_run`: every record is that of a group of sales.
-/

namespace SalesLedger

open Storage Sql Ledger

namespace Query

variable {p : ParameterSet} {schema : Schema} {x measure : String} {m : Measure} {s : Select}
  {sales : List Sale}

/-- Only a column that is measured by itself shares its name with the measure. -/
theorem ne_name_of_ne (hx : x ∈ Sale.columns) (h : m ≠ .column x) : x ≠ m.name := by
  rintro rfl
  cases m with
  | revenue => exact absurd hx (by decide)
  | column y => exact h rfl

/-! ## Records -/

theorem Measured.perm_record (h : x ≠ measure) (a : Measured) : (a.record x measure).Perm
    [(x, (groupCell x a.1).toJson), (measure, a.2.toJson)] := by
  show (Json.Fields.put measure a.2.toJson [(x, (groupCell x a.1).toJson)]).Perm _
  unfold Json.Fields.put
  rw [if_neg h]
  split
  · exact .swap _ _ _
  · exact .refl _

theorem Measured.record_self (x : String) (a : Measured) : a.record x x = [(x, a.2.toJson)] := by
  show Json.Fields.put x a.2.toJson [(x, (groupCell x a.1).toJson)] = _
  unfold Json.Fields.put
  rw [if_pos rfl]

/-- **Every record of an answer is that of a group of sales** and what it measures. -/
theorem exists_group_of_mem_run (hs : Asks p x m s) (ha : AreFound x m) {rows : List Json.Fields}
    (h : s.run (ofSales sales) = .ok rows) : ∀ r ∈ rows, ∃ a : Measured,
      a.1 ∈ groupsFor p x m (passing s sales) ∧ measureOf p m a.1 = .ok a.2 ∧
        r = a.record x m.name := by
  rw [run_eq hs ha] at h
  cases hcells : s.rows (ofSales sales) with
  | error f =>
    rw [hcells] at h
    cases h
  | ok cells =>
    rw [hcells] at h
    obtain rfl := Except.ok.inj h
    intro r hr
    obtain ⟨c, hc, rfl⟩ := List.mem_map.1 hr
    obtain ⟨unit, hunit, hof⟩ := Select.exists_unit_of_mem_rows hcells c hc
    -- the unit is the rows of a group of sales
    have hmem := List.mem_map_of_mem (f := List.map Row.cells) hunit
    rw [units_ofSales hs ha.category] at hmem
    obtain ⟨group, hgroup, heq⟩ := List.mem_map.1 hmem
    rw [cellsOf_group heq.symm hs ha] at hof
    cases hb : measureOf p m group with
    | error f =>
      rw [hb] at hof
      cases hof
    | ok b =>
      rw [hb] at hof
      obtain rfl := Except.ok.inj hof
      exact ⟨(group, b), (arrangedGroups_perm s sales).mem_iff.1 hgroup, hb, rfl⟩

end Query

namespace Service

open Query History

/-- **What a strict caller gets has two columns.** After any run of operations, every record of an
answer is for one of the groups of the sales that are asked for, or for one of those sales. It has
the category under one name and the measure under another, unless a column is measured by itself:
then it has the measure alone. -/
theorem strict_two_columns {config : Config} {d₀ : Disk} (h : Begins config d₀) (steps : List Step)
    (t : Tenant) :
    ∃ landed, ((history config d₀ steps).filter Event.succeeded).Sublist landed ∧
      landed.Sublist (history config d₀ steps) ∧
      ∀ (today : Calendar.Date) (p : ParameterSet) (q : Compiled) (rows : List Json.Fields),
        compile config (after config d₀ steps) today t p .strict = .ok q →
        Store.query config (after config d₀ steps) t q.select = .ok rows →
        ∃ x m, category? p (Store.schema config (after config d₀ steps) t) = some x ∧
          measure? p (Store.schema config (after config d₀ steps) t) = some m ∧
          q.xAxis = some x ∧ q.measure = some m.name ∧
          ∀ r ∈ rows, ∃ group ∈ groupsFor p x m ((landed.flatMap (Event.batch t)).filter
              fun sale => (conditions p ⟨Sale.columns⟩ today).all sale.meets),
            ∃ b, measureOf p m group = .ok b ∧
              if m = .column x then r = [(x, b.toJson)]
              else x ≠ m.name ∧
                r.Perm [(x, (groupCell x group).toJson), (m.name, b.toJson)] := by
  obtain ⟨landed, hok, hlanded, hheld⟩ := exists_landed h steps
  refine ⟨landed, hok, hlanded, fun today p q rows hq hrows => ?_⟩
  have hledger := hheld t
  generalize after config d₀ steps = d at *
  generalize landed.flatMap (Event.batch t) = sales at *
  obtain ⟨hrefused, rfl⟩ := compile_ok hq
  obtain ⟨x, m, hx, hm⟩ := found_of_strict hrefused
  have hcolumns := columns_ne_nil_of_category hx
  obtain ⟨-, hschema, -⟩ := Store.rows_of_held h.directory hledger hcolumns
  have hs := asks_compiled hx hm today .strict
  have ha : AreFound x m := areFound_of_found (hschema ▸ hx) (hschema ▸ hm)
  have hmeasure : (compiled p (Store.schema config d t) today .strict).measure = some m.name := by
    unfold compiled
    rw [hx, hm]
    exact measureName?_eq x m
  refine ⟨x, m, hx, hm, hx, hmeasure, fun r hr => ?_⟩
  rw [Store.query_of_held h.directory hledger hcolumns hs.table] at hrows
  cases hrun : (compiled p (Store.schema config d t) today .strict).select.run (ofSales sales) with
  | error f =>
    rw [hrun] at hrows
    cases hrows
  | ok answered =>
    rw [hrun] at hrows
    obtain rfl := Except.ok.inj hrows
    obtain ⟨⟨group, b⟩, hgroup, hb, rfl⟩ := exists_group_of_mem_run hs ha hrun r hr
    rw [passing_compiled, hschema] at hgroup
    refine ⟨group, hgroup, b, hb, ?_⟩
    split
    · rename_i hself
      subst hself
      exact Measured.record_self x (group, b)
    · rename_i hother
      have hne := ne_name_of_ne ha.category hother
      exact ⟨hne, Measured.perm_record hne (group, b)⟩

/-- The question how many sales of rice there are of each item. -/
def itemsPerItem : ParameterSet where
  xAxis := some "item"
  yAxis := some "item"
  aggregation := .count
  filterColumn := some "item"
  filterValue := some (.text "Rice")
  sortBy := none
  sortOrder := .descending
  limit := none
  timePeriod := none

theorem query_itemsPerItem :
    Store.query shop oilThenRice vendor
      (Query.compiled itemsPerItem ⟨Sale.columns⟩ marketDay .strict).select =
        .ok [[("item", .integer 1)]] := by
  have hx : category? itemsPerItem ⟨Sale.columns⟩ = some "item" := by decide +kernel
  have hm : measure? itemsPerItem ⟨Sale.columns⟩ = some (.column "item") := by decide +kernel
  have hs := asks_compiled hx hm marketDay .strict
  have hcolumns : (Store.schema shop oilThenRice vendor).columns ≠ [] := by
    rw [read_oilThenRice.2]
    decide
  have hone : (arrangedGroups itemsPerItem "item" (.column "item")
      (Query.compiled itemsPerItem ⟨Sale.columns⟩ marketDay .strict).select [oil, rice]).mapM
        (measured itemsPerItem (.column "item")) = .ok [([rice], .integer 1)] := by
    decide +kernel
  rw [Store.query_of_held begins_blank.directory read_oilThenRice.1 hcolumns hs.table,
    run_of_measured hs (areFound_of_found hx hm) rfl hone, order_eq, List.mergeSort_singleton]
  rfl

/-- The number has taken the place of the item. -/
theorem strict_two_columns_itemsPerItem :
    ∃ q rows, compile shop oilThenRice marketDay vendor itemsPerItem .strict = .ok q ∧
      Store.query shop oilThenRice vendor q.select = .ok rows ∧ rows.length = 1 ∧
      q.xAxis = some "item" ∧ q.measure = some "item" ∧
      ∀ r ∈ rows, ∃ b, measureOf itemsPerItem (.column "item") [rice] = .ok b ∧
        r = [("item", b.toJson)] := by
  obtain ⟨landed, hok, hlanded, hrecords⟩ := strict_two_columns begins_blank
    [⟨.record vendor [oil, rice], []⟩] vendor
  rw [landed_oilThenRice hok hlanded, schema_oilThenRice] at hrecords
  have hfound : category? itemsPerItem ⟨Sale.columns⟩ = some "item" ∧
      measure? itemsPerItem ⟨Sale.columns⟩ = some (.column "item") := by decide +kernel
  have hq : compile shop oilThenRice marketDay vendor itemsPerItem .strict =
      .ok (Query.compiled itemsPerItem ⟨Sale.columns⟩ marketDay .strict) := by
    unfold compile
    rw [read_oilThenRice.2]
    exact compile_of_found hfound.1 hfound.2 marketDay .strict
  obtain ⟨x, m, hx, hm, hxAxis, hmeasure, hall⟩ :=
    hrecords marketDay itemsPerItem _ _ hq query_itemsPerItem
  obtain rfl : "item" = x := Option.some.inj (hfound.1.symm.trans hx)
  obtain rfl : Measure.column "item" = m := Option.some.inj (hfound.2.symm.trans hm)
  have hgroups : groupsFor itemsPerItem "item" (.column "item") ([oil, rice].filter fun sale =>
      (conditions itemsPerItem ⟨Sale.columns⟩ marketDay).all sale.meets) = [[rice]] := by
    decide +kernel
  refine ⟨_, _, hq, query_itemsPerItem, rfl, hxAxis, hmeasure, fun r hr => ?_⟩
  obtain ⟨group, hgroup, b, hb, hr⟩ := hall r hr
  rw [hgroups, List.mem_singleton] at hgroup
  subst hgroup
  exact ⟨b, hb, hr⟩

end Service

end SalesLedger
