import SalesLedger.Proofs.GroupMeasures
import SalesLedger.Proofs.WholeRows

/-!
# Sorting by the measure

Whoever sorts by the words for the measure gets rows in the order of the measure as it is worked
out: `ranked_by_measure`. The words may be those of the y-axis in any case, also where a price is
asked for and the revenue is measured. A cap then leaves the first rows of the whole ranking.

* `orderTarget?_of_sorts`: the query is ordered by the name that the measure has in its rows.
* `answersRanked_of_order`: its rows are for the measured groups, in the order of their measures.
-/

namespace SalesLedger

open Storage Sql Ledger

/-! ## Words for the measure -/

theorem trim_nameOf? {v : Json} {s : String} (h : nameOf? v = some s) : Text.trim s = s := by
  unfold nameOf? at h
  split at h
  · split at h
    · cases h
    · obtain rfl := Option.some.inj h
      exact Text.trim_trim _
  · cases h

namespace Query

variable {p : ParameterSet} {x w y c : String} {m : Measure}

/-- The column to sort by is the measure: the revenue by its own name, or the y-axis in any case.
The revenue is not found with blanks around a word for it; whoever reads a set leaves them out. -/
def SortsByMeasure (p : ParameterSet) (m : Measure) : Prop :=
  ∃ w, p.sortBy = some w ∧ ((meansRevenue w = true ∧ m = .revenue) ∨
    ∃ y, p.yAxis = some y ∧ Text.lower (Text.trim w) = Text.lower (Text.trim y) ∧
      (m = .revenue → Text.trim w = w ∧ Text.trim y = y))

/-- A set that was read has no blanks around its words. -/
theorem sortsByMeasure_ofJson {v : Json} (hsort : (ParameterSet.ofJson v).sortBy = some w)
    (hy : (ParameterSet.ofJson v).yAxis = some y) (h : Text.lower w = Text.lower y)
    (m : Measure) : SortsByMeasure (ParameterSet.ofJson v) m := by
  have htrim : Text.trim w = w ∧ Text.trim y = y := by
    cases v with
    | object fields =>
      obtain ⟨vw, -, hw⟩ := Option.bind_eq_some_iff.1 hsort
      obtain ⟨vy, -, hy⟩ := Option.bind_eq_some_iff.1 hy
      exact ⟨trim_nameOf? hw, trim_nameOf? hy⟩
    | _ => cases hsort
  exact ⟨w, hsort, .inr ⟨y, hy, by rw [htrim.1, htrim.2, h], fun _ => htrim⟩⟩

theorem resolve?_of_lower (hc : c ∈ Sale.columns) (h : Text.lower (Text.trim w) = c) :
    Schema.resolve? ⟨Sale.columns⟩ w = some c := by
  have hfind : ∀ c ∈ Sale.columns, Sale.columns.find? (fun c' => Text.lower c' == c) = some c := by
    decide +kernel
  have hne : Text.trim w ≠ "" := by
    intro hempty
    rw [hempty] at h
    subst h
    exact absurd hc (by decide +kernel)
  unfold Schema.resolve?
  dsimp only
  rw [if_neg hne, h]
  exact hfind c hc

theorem meansRevenue_of_lower (h : Text.lower w = totalSales) : meansRevenue w = true :=
  Text.equalAscii_of_lower h (by decide +kernel) (by decide +kernel)

/-- The word for the revenue in the place of the y-axis asks for the revenue. -/
theorem eq_revenue_of_lower (hm : measure? p ⟨Sale.columns⟩ = some m) (hy : p.yAxis = some y)
    (h : Text.lower (Text.trim y) = totalSales) : m = .revenue := by
  obtain ⟨y', hy', hasked⟩ := measure?_cases hm
  obtain rfl : y = y' := Option.some.inj (hy.symm.trans hy')
  rcases hasked with ⟨hrevenue, -⟩ | ⟨hrevenue, -⟩ | ⟨c, hc, -, hlower⟩
  · exact hrevenue
  · exact hrevenue
  · rw [h] at hlower
    subst hlower
    exact absurd hc (by decide)

/-- The sum of the prices is the revenue. -/
theorem eq_revenue_of_price {schema : Schema} (hm : measure? p schema = some m)
    (hprice : p.yAxis.bind schema.resolve? = some priceColumn) (hsum : p.aggregation = .sum) :
    m = .revenue := by
  obtain ⟨y, hy, hresolved⟩ := Option.bind_eq_some_iff.1 hprice
  unfold measure? at hm
  rw [hy, Option.bind_some] at hm
  split at hm
  · exact (Option.some.inj hm).symm
  · rename_i hcolumn
    rw [column?, Option.bind_some, if_neg hcolumn, hresolved, hsum] at hm
    exact (Option.some.inj hm).symm

/-- Where the y-axis is the column to sort by, the engine orders by the name of the measure. -/
theorem orderName?_of_sorts (hm : measure? p ⟨Sale.columns⟩ = some m) (h : SortsByMeasure p m) :
    orderName? p ⟨Sale.columns⟩ (some m) (some m.name) = some m.name := by
  obtain ⟨w, hsort, hword⟩ := h
  unfold orderName?
  rw [hsort, Option.bind_some]
  by_cases hrevenue : meansRevenue w = true
  · have hw := lower_of_meansRevenue hrevenue
    have htrim := Text.trim_of_lower hw (lower_rowName _ List.mem_cons_self).2
    obtain rfl : m = .revenue := by
      rcases hword with ⟨-, hm⟩ | ⟨y, hy, hlower, -⟩
      · exact hm
      · rw [htrim, hw] at hlower
        exact eq_revenue_of_lower hm hy hlower.symm
    rw [if_pos hrevenue, if_pos rfl]
    rfl
  · rw [if_neg hrevenue]
    obtain ⟨y, hy, hlower, hplain⟩ := hword.resolve_left fun h => hrevenue h.1
    obtain ⟨y', hy', hasked⟩ := measure?_cases hm
    obtain rfl : y = y' := Option.some.inj (hy.symm.trans hy')
    rcases hasked with ⟨rfl, hy⟩ | ⟨rfl, hy, -⟩ | ⟨c, hc, rfl, hy⟩
    · -- the word would be that of the revenue
      obtain ⟨hw, hy'⟩ := hplain rfl
      rw [hw, hy', hy] at hlower
      exact absurd (meansRevenue_of_lower hlower) hrevenue
    · have hprice : Text.equalAscii y priceColumn = true := by
        rw [(hplain rfl).2] at hy
        exact equalAscii_price hy
      rw [resolve?_of_lower (by decide) (hlower.trans hy), Option.map_some, hy']
      dsimp only
      rw [hprice, if_pos rfl]
    · rw [resolve?_of_lower hc (hlower.trans hy), Option.map_some, hy']
      exact congrArg some (ite_self c)

/-- **A query that is sorted by the words for the measure is ordered by the measure**, for either
shape of caller. -/
theorem orderTarget?_of_sorts (hx : category? p ⟨Sale.columns⟩ = some x)
    (hm : measure? p ⟨Sale.columns⟩ = some m) (h : SortsByMeasure p m) (shape : Shape) :
    orderTarget? p ⟨Sale.columns⟩ shape = some m.name := by
  unfold orderTarget?
  dsimp only
  rw [hx, hm, measureName?_eq, orderName?_of_sorts hm h]
  cases shape <;> rfl

/-! ## Rows in the order of the measure -/

section Rows

variable {s : Select} {d : SortOrder} {sales : List Sale} (hs : Asks p x m s) (ha : AreFound x m)
  (horder : s.orderBy = some (m.name, d))

include horder in
theorem arranged_bare (n : Nat) :
    ({ s with orderBy := none, limit := none } : Select).arranged m.name d n =
      { s with limit := some n } := by
  simp [Select.arranged, horder]

include hs ha horder

theorem inGroupOrder_ordered : s.inGroupOrder (ofSales sales) = false := by
  have hcapped : Select.inGroupOrder _ (ofSales sales) = false :=
    inGroupOrder_arranged hs.bare ha d 0
  rw [arranged_bare horder] at hcapped
  exact hcapped

/-- What a row is ordered by is its second cell, whatever the cap. -/
theorem answer_ordered : ∀ rows ∈ s.units (ofSales sales), s.answer (ofSales sales) rows =
    (s.cellsOf (ofSales sales) rows).map fun cells => ⟨cells, cells.getD 1 .null⟩ := by
  intro rows hrows
  have hunits : rows ∈ (({ s with orderBy := none, limit := none } : Select).arranged m.name d
      0).units (ofSales sales) := by
    rw [arranged_bare horder, Select.units_limit (isUnkeyed_ofSales sales)]
    exact hrows
  have hcapped := answer_arranged hs.bare ha d 0 rows hunits
  rw [arranged_bare horder] at hcapped
  exact hcapped

/-- **The rows of a query in the order of the measure** are those of the measured groups. -/
theorem rows_ordered (sales : List Sale) : s.rows (ofSales sales) =
    if s.limit = some 0 then .ok []
    else ((arrangedGroups p x m s sales).mapM (measured p m)).map fun answers =>
      (s.capped (order d Prod.snd answers)).map (Measured.cells x) := by
  have hdirection : s.direction = d := by
    unfold Select.direction
    rw [horder]
    rfl
  have hanswers : (s.units (ofSales sales)).mapM (s.answer (ofSales sales)) =
      ((arrangedGroups p x m s sales).mapM (measured p m)).map
        (List.map fun a => ⟨a.cells x, a.2⟩) := by
    rw [mapM_congr_left (answer_ordered hs ha horder), mapM_map_ok, mapM_cellsOf hs ha]
    cases (arrangedGroups p x m s sales).mapM (measured p m) with
    | error f => rfl
    | ok answers => exact congrArg Except.ok List.map_map
  rw [Select.rows_of_otherOrder (inGroupOrder_ordered hs ha horder), hanswers, hdirection]
  cases (arrangedGroups p x m s sales).mapM (measured p m) with
  | error f => rfl
  | ok answers =>
    simp only [Except.map, order_map, capped_map, List.map_map]
    rfl

/-- Where each group can be measured, the rows are the first of the ordered ones. -/
theorem run_of_measured {answers : List Measured}
    (hall : (arrangedGroups p x m s sales).mapM (measured p m) = .ok answers) :
    s.run (ofSales sales) =
      .ok ((firstOf s.limit (order d Prod.snd answers)).map (Measured.record x m.name)) := by
  rw [run_eq hs ha, rows_ordered hs ha horder, hall]
  split
  · rename_i hlimit
    rw [hlimit]
    rfl
  · exact congrArg Except.ok List.map_map

/-- Where one cannot, only a cap that leaves out every row has an answer. -/
theorem run_of_fault {f : Fault}
    (hall : (arrangedGroups p x m s sales).mapM (measured p m) = .error f) :
    s.run (ofSales sales) = if s.limit = some 0 then .ok [] else .error f := by
  rw [run_eq hs ha, rows_ordered hs ha horder, hall]
  split <;> rfl

end Rows

/-- The groups of some sales ranked by what they measure. -/
structure IsRanking (p : ParameterSet) (x : String) (m : Measure) (sales : List Sale)
    (answers : List Measured) : Prop where
  groups : (answers.map Prod.fst).Perm (groupsFor p x m sales)
  measures : ∀ a ∈ answers, measureOf p m a.1 = .ok a.2
  ranked : answers.Pairwise fun a b => a.2.leads p.sortOrder b.2 = true

theorem isRanking_order {s : Select} {sales : List Sale} {answers : List Measured}
    (h : (arrangedGroups p x m s sales).mapM (measured p m) = .ok answers) :
    IsRanking p x m (passing s sales) (order p.sortOrder Prod.snd answers) := by
  obtain ⟨hgroups, hmeasures⟩ := measureOf_of_mapM h
  have hperm := order_perm p.sortOrder Prod.snd answers
  refine ⟨?_, fun a ha => hmeasures a (hperm.mem_iff.1 ha), order_pairwise _ _ _⟩
  refine (hperm.map Prod.fst).trans ?_
  rw [hgroups]
  exact arrangedGroups_perm s sales

/-- What a query and the same with a cap answer: a ranking of all groups and the first of it, or the
failure of a measure that could not be worked out. -/
inductive AnswersRanked (p : ParameterSet) (x : String) (m : Measure) (sales : List Sale)
    (limit : Option Nat) :
    Except Failure (List Json.Fields) → Except Failure (List Json.Fields) → Prop where
  | answered {answers : List Measured} (h : IsRanking p x m sales answers) :
    AnswersRanked p x m sales limit (.ok (answers.map (Measured.record x m.name)))
      (.ok ((firstOf limit answers).map (Measured.record x m.name)))
  | failed (f : Failure) :
    AnswersRanked p x m sales limit (.error f) (if limit = some 0 then .ok [] else .error f)

/-- **A query in the order of the measure answers with a ranking**, and with the first of it. -/
theorem answersRanked_of_order {s : Select} (hs : Asks p x m s) (ha : AreFound x m)
    (horder : s.orderBy = some (m.name, p.sortOrder)) (sales : List Sale) (e : Fault → Failure) :
    AnswersRanked p x m (passing s sales) s.limit
      (({ s with limit := none }.run (ofSales sales)).mapError e)
      ((s.run (ofSales sales)).mapError e) := by
  have hs' : Asks p x m { s with limit := none } := ⟨hs.outputs, hs.table, hs.groupBy⟩
  cases hall : (arrangedGroups p x m s sales).mapM (measured p m) with
  | error f =>
    have hwhole : ({ s with limit := none }.run (ofSales sales)).mapError e = .error (e f) := by
      rw [run_of_fault hs' ha horder hall]
      rfl
    have hcapped : (s.run (ofSales sales)).mapError e =
        if s.limit = some 0 then .ok [] else .error (e f) := by
      rw [run_of_fault hs ha horder hall]
      split <;> rfl
    rw [hwhole, hcapped]
    exact .failed (e f)
  | ok answers =>
    rw [run_of_measured hs' ha horder hall, run_of_measured hs ha horder hall]
    exact .answered (isRanking_order hall)

end Query

namespace Service

open Query History

/-- **Who sorts by the words for the measure gets rows ranked by the measure.** After any run of
operations, where both axes are found, the query is ordered by the measure as it is worked out for
each row, be it a sale or a group of them, and its cap leaves the first rows of the ranking. The sum
of the prices is the revenue. -/
theorem ranked_by_measure {config : Config} {d₀ : Disk} (h : Begins config d₀) (steps : List Step)
    (t : Tenant) :
    ∃ landed, ((history config d₀ steps).filter Event.succeeded).Sublist landed ∧
      landed.Sublist (history config d₀ steps) ∧
      ∀ (today : Calendar.Date) (p : ParameterSet) (shape : Shape) (x : String) (m : Measure),
        category? p (Store.schema config (after config d₀ steps) t) = some x →
        measure? p (Store.schema config (after config d₀ steps) t) = some m →
        SortsByMeasure p m →
        (p.yAxis.bind (Schema.resolve? ⟨Sale.columns⟩) = some priceColumn →
          p.aggregation = .sum → m = .revenue) ∧
        ∃ q, compile config (after config d₀ steps) today t p shape = .ok q ∧
          q.select.orderBy = some (m.name, p.sortOrder) ∧
          AnswersRanked p x m ((landed.flatMap (Event.batch t)).filter fun sale =>
              (conditions p ⟨Sale.columns⟩ today).all sale.meets) (rowLimit? p shape)
            (Store.query config (after config d₀ steps) t { q.select with limit := none })
            (Store.query config (after config d₀ steps) t q.select) := by
  obtain ⟨landed, hok, hlanded, hheld⟩ := exists_landed h steps
  refine ⟨landed, hok, hlanded, fun today p shape x m hx hm hsorts => ?_⟩
  have hledger := hheld t
  generalize after config d₀ steps = d at *
  generalize landed.flatMap (Event.batch t) = sales at *
  have hcolumns := columns_ne_nil_of_category hx
  obtain ⟨-, hschema, -⟩ := Store.rows_of_held h.directory hledger hcolumns
  rw [hschema] at hx hm
  have hq : compile config d today t p shape = .ok (compiled p ⟨Sale.columns⟩ today shape) := by
    unfold compile
    rw [hschema]
    exact compile_of_found hx hm today shape
  have hs := asks_compiled hx hm today shape
  have horder : (compiled p ⟨Sale.columns⟩ today shape).select.orderBy =
      some (m.name, p.sortOrder) := by
    unfold compiled
    rw [orderTarget?_of_sorts hx hm hsorts]
    rfl
  refine ⟨eq_revenue_of_price hm, _, hq, horder, ?_⟩
  have hranked := answersRanked_of_order hs (areFound_of_found hx hm) horder sales
    (Store.storageFailure t "reading rows")
  rw [passing_compiled] at hranked
  rw [Store.query_of_held h.directory hledger hcolumns hs.table,
    Store.query_of_held h.directory hledger hcolumns
      (s := { (compiled p ⟨Sale.columns⟩ today shape).select with limit := none }) hs.table]
  exact hranked

/-- The question which item earned most, sorted by what is summed. -/
def priceSum : ParameterSet :=
  .ofJson (.object [("aggregation", .text "sum"), ("limit", .integer 1), ("sort_by", .text "PRICE"),
    ("x_axis", .text "item"), ("y_axis", .text "Price")])

/-- Sorted by the price, the chart's query is ordered by the revenue. -/
theorem ranked_by_measure_priceSum :
    ∃ q, compile shop oilThenRice marketDay vendor priceSum .strict = .ok q ∧
      q.select.orderBy = some ("total_sales", .descending) ∧
      AnswersRanked priceSum "item" .revenue [oil, rice] (some 1)
        (Store.query shop oilThenRice vendor { q.select with limit := none })
        (Store.query shop oilThenRice vendor q.select) := by
  obtain ⟨landed, hok, hlanded, hranked⟩ := ranked_by_measure begins_blank
    [⟨.record vendor [oil, rice], []⟩] vendor
  rw [landed_oilThenRice hok hlanded] at hranked
  have hfound : category? priceSum ⟨Sale.columns⟩ = some "item" ∧
      measure? priceSum ⟨Sale.columns⟩ = some .revenue := by decide +kernel
  have hsorts : SortsByMeasure priceSum .revenue :=
    sortsByMeasure_ofJson rfl rfl (by decide +kernel) .revenue
  rw [schema_oilThenRice] at hranked
  obtain ⟨-, q, hq⟩ := hranked marketDay priceSum .strict "item" .revenue hfound.1 hfound.2 hsorts
  exact ⟨q, hq⟩

end Service

end SalesLedger
