import Mathlib.Data.Set.List
import SalesLedger.Proofs.Summaries
import SalesLedger.Proofs.Sums

/-!
# The stock of the best stocked items

What the view of the stock shows. The engine adds up the stock of each item in the order in which
its sales were appended. Where no sum on the way leaves 64 bits, the view is the exact distribution:
the five items with the greatest stock, each with all of it. Where one does, for one item of the
ledger, the view shows no item at all. `inventory_distributed` says so of every run.

* `exists_items`: the groups of a ledger are the sales of its items.
* `rows_inventoryQuery`: the view's rows are a ranking of these groups.
* `isDistribution_ranked`: the first of the ranked items are a distribution.
-/

namespace SalesLedger

open Storage Sql Ledger Query

/-! ## Items -/

/-- The sales of an item. -/
def salesOf (sales : List Sale) (item : String) : List Sale := sales.filter (·.item = item)

/-- The stock of an item: the exact sum over its sales. -/
def stockOf (sales : List Sale) (item : String) : Int :=
  ((salesOf sales item).map Sale.inStock).sum

/-- No item's stock leaves 64 bits while it is added up. -/
def StockAddsUp (sales : List Sale) : Prop :=
  ∀ item, AddsUp ((salesOf sales item).map Sale.inStock)

/-- Each item's stock adds up where that of all sales has magnitudes that add up to 63 bits. -/
theorem stockAddsUp_of_reach {sales : List Sale}
    (h : (sales.map (·.inStock.natAbs)).sum ≤ 0x7fffffffffffffff) : StockAddsUp sales := by
  refine fun item => addsUp_of_reach ?_
  rw [List.map_map]
  have hpart : ((salesOf sales item).map (·.inStock.natAbs)).sum ≤
      (sales.map (·.inStock.natAbs)).sum :=
    (List.filter_sublist.map _).sum_le_sum fun _ _ => Nat.zero_le _
  exact hpart.trans h

theorem stockAddsUp_nil : StockAddsUp [] := stockAddsUp_of_reach (by decide)

namespace Dashboard

variable {sales : List Sale} {items : List String}

/-- The groups of sales that the view has rows for. -/
def itemGroups (sales : List Sale) : List (List Sale) :=
  groupsOf (Sale.cell · itemColumn) (order .descending (Sale.cell · itemColumn) sales)

theorem withKey_item (sales : List Sale) (item : String) :
    withKey (Sale.cell · itemColumn) (order .descending (Sale.cell · itemColumn) sales)
      (.text item []) = salesOf sales item := by
  have hkey : ∀ s : Sale, (s.cell itemColumn).key = .text item [] ↔ s.item = item := fun s =>
    ⟨fun h => (Cell.Key.text.inj h).1, fun h => congrArg (Cell.Key.text · []) h⟩
  rw [withKey, order_filter]
  exact List.filter_congr fun s _ => decide_eq_decide.2 (hkey s)

/-- An item that was sold has a first sale. -/
theorem exists_salesOf {item : String} (h : item ∈ sales.map Sale.item) :
    ∃ first rest, salesOf sales item = first :: rest ∧ first.item = item := by
  obtain ⟨s, hs, hitem⟩ := List.mem_map.1 h
  have hmem : s ∈ salesOf sales item := List.mem_filter.2 ⟨hs, decide_eq_true hitem⟩
  obtain ⟨first, rest, hgroup⟩ := List.exists_cons_of_ne_nil (List.ne_nil_of_mem hmem)
  have hfirst : first ∈ salesOf sales item := hgroup ▸ List.mem_cons_self
  exact ⟨first, rest, hgroup, of_decide_eq_true (List.mem_filter.1 hfirst).2⟩

/-- **The groups are the sales of each item**, and each item has one. -/
theorem exists_items (sales : List Sale) : ∃ items : List String, items.Nodup ∧
    (∀ item, item ∈ items ↔ item ∈ sales.map Sale.item) ∧
    itemGroups sales = items.map (salesOf sales) := by
  have hkey : Function.Injective fun item : String => Cell.Key.text item [] :=
    fun _ _ h => (Cell.Key.text.inj h).1
  have hkeys : ∀ k, k ∈ keysOf (Sale.cell · itemColumn)
      (order .descending (Sale.cell · itemColumn) sales) ↔
      ∃ s ∈ sales, Cell.Key.text s.item [] = k := fun k => by
    rw [mem_keysOf]
    simp only [(order_perm _ _ sales).mem_iff]
    rfl
  obtain ⟨items, hitems⟩ : keysOf (Sale.cell · itemColumn)
      (order .descending (Sale.cell · itemColumn) sales) ∈
      Set.range (List.map fun item : String => Cell.Key.text item []) := by
    rw [Set.range_list_map]
    intro k hk
    obtain ⟨s, -, rfl⟩ := (hkeys k).1 hk
    exact ⟨s.item, rfl⟩
  refine ⟨items, ?_, fun item => ?_, ?_⟩
  · have hnodup := nodup_keysOf (Sale.cell · itemColumn)
      (order .descending (Sale.cell · itemColumn) sales)
    rw [← hitems] at hnodup
    exact hnodup.of_map _
  · rw [← List.mem_map_of_injective hkey, hitems, hkeys, List.mem_map]
    simp only [Cell.Key.text.injEq, and_true]
  · rw [itemGroups, groupsOf, ← hitems, List.map_map]
    exact List.map_congr_left fun item _ => withKey_item sales item

/-! ## Distributions -/

/-- What a view of the stock has to show: of the items that were sold, the five with the greatest
stock, those with more first, each with its exact stock as the nearest double. -/
structure IsDistribution (sales : List Sale) (slices : List InventorySlice) : Prop where
  length : slices.length = min 5 (sales.map Sale.item).dedup.length
  names : (slices.map InventorySlice.name).Nodup
  values : ∀ slice ∈ slices, slice.name ∈ sales.map Sale.item ∧
    slice.value = Float.ofInt (stockOf sales slice.name)
  ordered : slices.Pairwise fun a b => stockOf sales b.name ≤ stockOf sales a.name
  others : ∀ slice ∈ slices, ∀ item ∈ sales.map Sale.item,
    item ∉ slices.map InventorySlice.name → stockOf sales item ≤ stockOf sales slice.name

/-- No items are a distribution only of no sales. -/
theorem isDistribution_nil_iff : IsDistribution sales [] ↔ sales = [] := by
  constructor
  · intro h
    have hlength : (sales.map Sale.item).dedup.length = 0 := by
      have hmin := h.length
      rw [List.length_nil] at hmin
      omega
    exact List.map_eq_nil_iff.1 ((List.dedup_eq_nil _).1 (List.length_eq_zero_iff.1 hlength))
  · rintro rfl
    exact ⟨rfl, .nil, nofun, .nil, nofun⟩

/-- The slice of an item. -/
def sliceOf (sales : List Sale) (item : String) : InventorySlice :=
  ⟨item, Float.ofInt (stockOf sales item)⟩

/-- Items, those with the greatest stock first. -/
def rankedItems (sales : List Sale) (items : List String) : List String :=
  order .descending (fun item => .integer (stockOf sales item)) items

/-- **The first of the ranked items are a distribution.** -/
theorem isDistribution_ranked (hnodup : items.Nodup)
    (hitems : ∀ item, item ∈ items ↔ item ∈ sales.map Sale.item) :
    IsDistribution sales (((rankedItems sales items).take 5).map (sliceOf sales)) := by
  have hperm : (rankedItems sales items).Perm items := order_perm _ _ _
  have hranked : (rankedItems sales items).Pairwise fun a b =>
      stockOf sales b ≤ stockOf sales a :=
    (order_pairwise (fun item => .integer (stockOf sales item)) .descending items).imp
      fun hleads => Decimal.Binary64.units_ofInt_le_iff.1 (of_decide_eq_true hleads)
  have hcount : items.length = (sales.map Sale.item).dedup.length :=
    ((List.perm_ext_iff_of_nodup hnodup (List.nodup_dedup _)).2 fun item => by
      rw [hitems, List.mem_dedup]).length_eq
  have hnames : (((rankedItems sales items).take 5).map (sliceOf sales)).map
      InventorySlice.name = (rankedItems sales items).take 5 :=
    List.map_map.trans (List.map_id _)
  obtain ⟨htop, hcross⟩ := pairwise_take_drop hranked 5
  have hmem : ∀ item, item ∈ (rankedItems sales items).take 5 ∨
      item ∈ (rankedItems sales items).drop 5 ↔ item ∈ sales.map Sale.item := fun item => by
    rw [← List.mem_append, List.take_append_drop, hperm.mem_iff, hitems]
  refine ⟨?_, ?_, ?_, ?_, ?_⟩
  · rw [List.length_map, List.length_take, hperm.length_eq, hcount]
  · rw [hnames]
    exact (hperm.nodup_iff.2 hnodup).sublist (List.take_sublist _ _)
  · intro slice hslice
    obtain ⟨item, hitem, rfl⟩ := List.mem_map.1 hslice
    exact ⟨(hmem item).1 (.inl hitem), rfl⟩
  · rw [List.pairwise_map]
    exact htop
  · intro slice hslice item hitem hleft
    obtain ⟨shown, hshown, rfl⟩ := List.mem_map.1 hslice
    rw [hnames] at hleft
    exact hcross shown hshown item (((hmem item).2 hitem).resolve_left hleft)

/-! ## Rows -/

/-- The question of which items there is most. -/
def mostStocked : ParameterSet where
  xAxis := some "item"
  yAxis := some "quantity_in_stock"
  aggregation := .sum
  filterColumn := none
  filterValue := none
  sortBy := some "quantity_in_stock"
  sortOrder := .descending
  limit := some 5
  timePeriod := none

/-- The query for the best stocked items. -/
def stockQuery : Select where
  outputs := some [plainOutput itemColumn, measureOutput mostStocked (.column stockColumn)]
  table := Ledger.table
  conditions := []
  groupBy := some itemColumn
  orderBy := some (stockColumn, .descending)
  limit := some inventorySlices

theorem asks_stockQuery : Asks mostStocked itemColumn (.column stockColumn) stockQuery :=
  ⟨rfl, rfl, rfl⟩

theorem areFound_stock : AreFound itemColumn (.column stockColumn) :=
  ⟨by decide, fun _ h => Measure.column.inj h ▸ by decide⟩

/-- **The view's rows are a ranking of the items' groups** by what they measure. -/
theorem rows_inventoryQuery (sales : List Sale) : inventoryQuery.rows (ofSales sales) =
    ((itemGroups sales).mapM (measured mostStocked (.column stockColumn))).map fun answers =>
      ((order .descending Prod.snd answers).take 5).map (Measured.cells itemColumn) := by
  have hrenamed : inventoryQuery.rows (ofSales sales) = stockQuery.rows (ofSales sales) :=
    Select.rows_of_renamed (isUnkeyed_ofSales sales) (index?_ofSales (c := itemColumn) (by decide))
      rfl rfl rfl rfl rfl rfl rfl
  rw [hrenamed, rows_ordered asks_stockQuery areFound_stock rfl, if_neg (by decide),
    arrangedGroups_of_all rfl rfl]
  rfl

theorem map_count_stock (sales : List Sale) :
    sales.map (Sale.count · stockColumn) = sales.map Sale.inStock :=
  List.map_congr_left fun _ _ => if_neg (by decide)

/-- The slice that a row of the view is shown as. -/
def sliceOfRow (row : Json.Fields) : InventorySlice :=
  ⟨(text? row itemColumn).getD "", number row "total_stock"⟩

theorem sliceOfRow_item {item : String} (h : item ∈ sales.map Sale.item) :
    sliceOfRow (Measured.record itemColumn "total_stock"
      (salesOf sales item, .integer (stockOf sales item))) = sliceOf sales item := by
  obtain ⟨first, rest, hgroup, hitem⟩ := exists_salesOf h
  have hname : (groupCell itemColumn (salesOf sales item)).toJson.text? = some item := by
    rw [hgroup, ← hitem]
    rfl
  unfold sliceOfRow number
  rw [text?_record _ (by decide), hname, Measured.record, (Json.Fields.get?_pair (by decide) _ _).2]
  rfl

section Held

variable {config : Config} {d : Disk} {t : Tenant} (hdir : config.HasPlainDirectory)
  (hheld : Store.heldLedger config d t = ofSales sales)

include hdir hheld

theorem inventory_eq (hschema : (Store.schema config d t).columns ≠ []) :
    inventory config d t = (((inventoryQuery.rows (ofSales sales)).toOption.getD []).map
      fun cells => sliceOfRow (Json.Fields.ofList
        (["item", "total_stock"].zip (cells.map Cell.toJson)))) := by
  obtain ⟨hexists, -, hrows⟩ := Store.rows_of_held hdir hheld hschema
  unfold inventory
  rw [if_pos hexists, hrows inventoryQuery rfl, Select.run]
  cases inventoryQuery.rows (ofSales sales) with
  | error f => rfl
  | ok cells => exact List.map_map

/-- **Where each item's stock adds up, the view is the distribution.** -/
theorem isDistribution_of_addsUp (hschema : (Store.schema config d t).columns ≠ [])
    (h : StockAddsUp sales) : IsDistribution sales (inventory config d t) := by
  obtain ⟨items, hnodup, hitems, hgroups⟩ := exists_items sales
  have hmeasured : ∀ item ∈ items, measured mostStocked (.column stockColumn)
      (salesOf sales item) = .ok (salesOf sales item, .integer (stockOf sales item)) := by
    intro item hitem
    obtain ⟨first, rest, hgroup, -⟩ := exists_salesOf ((hitems item).1 hitem)
    have hne : salesOf sales item ≠ [] := hgroup ▸ List.cons_ne_nil _ _
    rw [measured_of_addsUp (by decide) rfl hne (map_count_stock _ ▸ h item), totalOf,
      map_count_stock]
    rfl
  have hanswers : (items.map (salesOf sales)).mapM (measured mostStocked (.column stockColumn)) =
      .ok (items.map fun item => (salesOf sales item, .integer (stockOf sales item))) := by
    rw [List.mapM_map]
    exact mapM_eq_ok hmeasured
  have hslices : inventory config d t =
      ((rankedItems sales items).take 5).map (sliceOf sales) := by
    rw [inventory_eq hdir hheld hschema, rows_inventoryQuery, hgroups, hanswers]
    simp only [Except.map, Except.toOption, Option.getD_some, order_map, ← List.map_take,
      List.map_map]
    refine List.map_congr_left fun item hitem => ?_
    have hmem := (order_perm _ _ _).mem_iff.1 (List.mem_of_mem_take hitem)
    exact sliceOfRow_item ((hitems item).1 hmem)
  rw [hslices]
  exact isDistribution_ranked hnodup hitems

/-- **Where one item's stock does not, the view is empty.** -/
theorem inventory_of_not_addsUp (hschema : (Store.schema config d t).columns ≠ [])
    (h : ¬ StockAddsUp sales) : inventory config d t = [] := by
  obtain ⟨item, hitem⟩ := not_forall.1 h
  obtain ⟨items, -, hitems, hgroups⟩ := exists_items sales
  have hsold : item ∈ sales.map Sale.item := by
    by_contra hnone
    have hempty : salesOf sales item = [] := List.filter_eq_nil_iff.2 fun s hs hname =>
      hnone (List.mem_map.2 ⟨s, hs, of_decide_eq_true hname⟩)
    rw [hempty] at hitem
    exact hitem (stockAddsUp_nil item)
  have hmem : salesOf sales item ∈ itemGroups sales := by
    rw [hgroups]
    exact List.mem_map_of_mem ((hitems item).2 hsold)
  obtain ⟨f, hfault⟩ := mapM_error hmem (measured_of_not_addsUp (p := mostStocked)
    (y := stockColumn) (by decide) rfl (map_count_stock _ ▸ hitem))
  rw [inventory_eq hdir hheld hschema, rows_inventoryQuery, hfault]
  rfl

theorem inventory_of_no_columns (hnone : (Store.schema config d t).columns = []) :
    inventory config d t = [] := by
  unfold inventory
  rw [Store.rows_of_no_columns hdir hheld hnone rfl, List.map_nil, ite_self]

end Held

open History Service

/-- **The stock of a ledger is distributed exactly, or not at all.** After any run of operations,
the view of the stock shows the five items with the greatest stock, each with the exact sum over its
sales, just if no such sum leaves 64 bits on the way. If one does, no item is shown, also none of
those whose stock is small. -/
theorem inventory_distributed {config : Config} {d₀ : Disk} (h : Begins config d₀)
    (hworking : d₀.isDirectory d₀.working = true) (steps : List Step) (t : Tenant)
    (hpath : Store.HasShortPath config t) :
    ∃ landed, ((history config d₀ steps).filter Event.succeeded).Sublist landed ∧
      landed.Sublist (history config d₀ steps) ∧
      (IsDistribution (landed.flatMap (Event.batch t))
          (inventory config (after config d₀ steps) t) ↔
        StockAddsUp (landed.flatMap (Event.batch t))) ∧
      (¬ StockAddsUp (landed.flatMap (Event.batch t)) →
        inventory config (after config d₀ steps) t = []) := by
  obtain ⟨landed, hok, hlanded, hledger, hreadable⟩ := exists_readable h hworking steps hpath
  refine ⟨landed, hok, hlanded, ?_⟩
  generalize landed.flatMap (Event.batch t) = sales at *
  generalize after config d₀ steps = d at *
  by_cases hcolumns : (Store.schema config d t).columns = []
  · obtain rfl := hreadable hcolumns
    rw [inventory_of_no_columns h.directory hledger hcolumns, isDistribution_nil_iff]
    exact ⟨iff_of_true rfl stockAddsUp_nil, fun _ => rfl⟩
  · have hnone := inventory_of_not_addsUp h.directory hledger hcolumns
    refine ⟨⟨fun hshown => ?_, isDistribution_of_addsUp h.directory hledger hcolumns⟩, hnone⟩
    by_contra hadds
    rw [hnone hadds, isDistribution_nil_iff] at hshown
    exact hadds (hshown ▸ stockAddsUp_nil)

/-- As much rice as can be counted. -/
def hoard : Sale := { rice with inStock := 0x7fffffffffffffff, inStock_fits := by decide }

/-- Oil and rice are distributed; beside a hoard of rice, there is no oil to see either. -/
theorem inventory_distributed_hoard :
    IsDistribution [oil, rice] (inventory shop oilThenRice vendor) ∧
      inventory shop (after shop blank [⟨.record vendor [hoard, oil, rice], []⟩]) vendor = [] := by
  constructor
  · obtain ⟨landed, hok, hlanded, hexact, -⟩ := inventory_distributed begins_blank (by decide)
      [⟨.record vendor [oil, rice], []⟩] vendor hasShortPath_vendor
    rw [landed_oilThenRice hok hlanded] at hexact
    exact hexact.2 (stockAddsUp_of_reach (by decide))
  · obtain ⟨landed, hok, hlanded, -, hnone⟩ := inventory_distributed begins_blank (by decide)
      [⟨.record vendor [hoard, oil, rice], []⟩] vendor hasShortPath_vendor
    have hsales : landed.flatMap (Event.batch vendor) = [hoard, oil, rice] := by
      rw [eq_of_succeeded hok hlanded (by decide +kernel)]
      rfl
    rw [hsales] at hnone
    exact hnone fun hadds => absurd (hadds "Rice" 2) (by decide)

end Dashboard

end SalesLedger
