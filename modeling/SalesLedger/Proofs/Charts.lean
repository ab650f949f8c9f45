import SalesLedger.Proofs.ChartColumn
import SalesLedger.Proofs.LedgerReading
import SalesLedger.Proofs.Measuring
import SalesLedger.Proofs.Records
import SalesLedger.Proofs.Runs

/-!
# Charts

A chart is the top of what an analysis gives. Both come from one table by one query, of which the
chart's is ordered and capped (`Query.select_strict`); then the chart's rows are ordered once more,
by numbers that are rounded to doubles. `chart_top`: the second ordering changes nothing, so a chart
has the first rows of the analysis in the exact order of the measure.

* `ranks_of_leads`: records rank as the cells that the query ordered by.
* `isTop_of_ordered`: the first of the ordered rows are the top of all rows.
-/

namespace SalesLedger.Service

open Storage Sql Ledger Query History

/-! ## Records -/

variable {x measure : String} {a b : Cell}

/-- **A measure that is not null is its cell**, also where it is a date. -/
theorem dated_of_measured {m : Measure} (hb : IsMeasured m b)
    (hnull : Presentation.dated m.name b.toJson ≠ .null) :
    Presentation.dated m.name b.toJson = b.toJson ∧ b.toJson ≠ .null := by
  unfold Presentation.dated at hnull ⊢
  by_cases hdate : m.name = dateColumn
  · rw [if_pos hdate] at hnull ⊢
    rcases hb.date hdate with ⟨d, rfl⟩ | htext
    · have hjson : (Cell.text d.text).toJson = .text d.text := rfl
      rw [hjson, Presentation.normalizeDate_text]
      exact ⟨rfl, Json.noConfusion⟩
    · rw [Presentation.normalizeDate_of_ne_text hb.isLegible htext] at hnull
      exact absurd rfl hnull
  · rw [if_neg hdate] at hnull ⊢
    exact ⟨rfl, hnull⟩

/-- Rows rank as the cells of their measure. -/
theorem ranks_of_leads {m : Measure} {d : SortOrder} {b b' : Cell} {r r' : Json.Fields}
    (hb : IsMeasured m b) (hb' : IsMeasured m b')
    (hr : r.get? m.name = some (Presentation.dated m.name b.toJson))
    (hr' : r'.get? m.name = some (Presentation.dated m.name b'.toJson))
    (hnull : r.get? m.name ≠ some .null) (hnull' : r'.get? m.name ≠ some .null)
    (hleads : b.leads d b' = true) : Ranks m.name d r r' := by
  rw [hr] at hnull
  rw [hr'] at hnull'
  obtain ⟨hvalue, hpresent⟩ := dated_of_measured hb fun h => hnull (congrArg some h)
  obtain ⟨hvalue', hpresent'⟩ := dated_of_measured hb' fun h => hnull' (congrArg some h)
  refine ⟨_, _, hvalue ▸ hr, hvalue' ▸ hr', hpresent, hpresent', ?_⟩
  rw [Json.exactLeads_toJson hb.isLegible hb'.isLegible hpresent hpresent']
  exact hleads

/-! ## Rows -/

/-- The rows of a chart among those of the analysis: as many as wanted, in the exact order of the
measure, and no row that is left out ranks before one of them. -/
structure IsTop (measure : String) (d : SortOrder) (wanted : Nat) (rows top : List Json.Fields) :
    Prop where
  length : top.length = min wanted rows.length
  ordered : top.Pairwise (Ranks measure d)
  others : ∃ rest, rows.Perm (top ++ rest) ∧ ∀ r ∈ top, ∀ s ∈ rest, Ranks measure d r s

/-- **The first of the ordered rows are the top of all rows.** -/
theorem isTop_of_ordered {m : Measure} {d : SortOrder} {wanted : Nat}
    {cells cells' : List (List Cell)} (hperm : cells.Perm cells')
    (hcells : ∀ c ∈ cells, ∃ a b, c = [a, b] ∧ IsMeasured m b)
    (hnull : ∀ r ∈ cells.map (record x m.name), r.get? m.name ≠ some .null) :
    IsTop m.name d wanted (cells.map (record x m.name))
      (((order d (fun c => c.getD 1 .null) cells').take wanted).map (record x m.name)) := by
  have hall := (order_perm d (fun c : List Cell => c.getD 1 .null) cells').trans hperm.symm
  have hranks : ∀ c ∈ cells, ∀ c' ∈ cells, (c.getD 1 .null).leads d (c'.getD 1 .null) = true →
      Ranks m.name d (record x m.name c) (record x m.name c') := by
    intro c hc c' hc' hleads
    have hn := hnull _ (List.mem_map_of_mem hc)
    have hn' := hnull _ (List.mem_map_of_mem hc')
    obtain ⟨a, b, rfl, hb⟩ := hcells c hc
    obtain ⟨a', b', rfl, hb'⟩ := hcells c' hc'
    exact ranks_of_leads hb hb' get?_record get?_record hn hn' hleads
  have hordered : ((order d (fun c : List Cell => c.getD 1 .null) cells').map
      (record x m.name)).Pairwise (Ranks m.name d) := by
    rw [List.pairwise_map]
    refine (order_pairwise (fun c : List Cell => c.getD 1 .null) d cells').imp_of_mem ?_
    intro c c' hc hc'
    exact hranks c (hall.mem_iff.1 hc) c' (hall.mem_iff.1 hc')
  generalize order d (fun c : List Cell => c.getD 1 .null) cells' = sorted at hall hordered ⊢
  rw [List.map_take]
  obtain ⟨htop, hcross⟩ := pairwise_take_drop hordered wanted
  refine ⟨?_, htop, _, ?_, hcross⟩
  · rw [List.length_take, List.length_map, List.length_map, hall.length_eq]
  · rw [List.take_append_drop]
    exact (hall.symm).map _

/-! ## Answers -/

variable {config : Config} {d : Disk} {t : Tenant} {sales : List Sale} {p : ParameterSet}
  {today : Calendar.Date} {m : Measure}

/-- A caller who is not refused gets the query's rows under the names of its columns, with their
dates in the usual form. -/
theorem fetch_of_held (hdir : config.HasPlainDirectory)
    (hheld : Store.heldLedger config d t = ofSales sales)
    (hschema : (Store.schema config d t).columns ≠ []) {shape : Shape}
    (hrefused : isRefused p (Store.schema config d t) shape = false) :
    fetch config d today t p shape =
      (((compiled p (Store.schema config d t) today shape).select.run
        (ofSales sales)).toOption.getD []).map Presentation.normalizeRow := by
  obtain ⟨hexists, -, hrows⟩ := Store.rows_of_held hdir hheld hschema
  unfold fetch compile Query.compile
  rw [if_pos hexists, hrefused, if_neg Bool.false_ne_true]
  dsimp only
  rw [hrows _ rfl]
  rfl

/-- The same as records of a category and a measure. -/
theorem fetch_eq (hdir : config.HasPlainDirectory)
    (hheld : Store.heldLedger config d t = ofSales sales)
    (hschema : (Store.schema config d t).columns ≠ []) {shape : Shape}
    (hrefused : isRefused p (Store.schema config d t) shape = false)
    (hnames : ((compiled p (Store.schema config d t) today shape).select.answerColumns
      (ofSales sales)).map (Select.outputName (ofSales sales)) = [x, measure]) :
    fetch config d today t p shape =
      (((compiled p (Store.schema config d t) today shape).select.rows
        (ofSales sales)).toOption.getD []).map (record x measure) := by
  rw [fetch_of_held hdir hheld hschema hrefused, Select.run, hnames]
  cases (compiled p (Store.schema config d t) today shape).select.rows (ofSales sales) with
  | error f => rfl
  | ok cells => exact List.map_map

/-- What is found is in the ledger. -/
theorem areFound_of_found (hx : category? p ⟨Sale.columns⟩ = some x)
    (hm : measure? p ⟨Sale.columns⟩ = some m) : AreFound x m := by
  obtain ⟨word, -, hword⟩ := Option.bind_eq_some_iff.1 hx
  refine ⟨Schema.mem_of_resolve? hword, fun y hy => ?_⟩
  obtain ⟨-, -, ⟨rfl, -⟩ | ⟨rfl, -⟩ | ⟨c, hc, rfl, -⟩⟩ := measure?_cases hm
  · cases hy
  · cases hy
  · exact Measure.column.inj hy ▸ hc

/-- A category and a measure that are found, under different names. -/
theorem areApart_of_found (hx : category? p ⟨Sale.columns⟩ = some x)
    (hm : measure? p ⟨Sale.columns⟩ = some m) (hne : x ≠ m.name) : AreApart x m :=
  ⟨areFound_of_found hx hm, hne⟩

/-- Where a category is found, there are columns. -/
theorem columns_ne_nil_of_category {schema : Schema} (hx : category? p schema = some x) :
    schema.columns ≠ [] := by
  obtain ⟨word, -, hword⟩ := Option.bind_eq_some_iff.1 hx
  exact List.ne_nil_of_mem (Schema.mem_of_resolve? hword)

theorem exists_record {s : Select} (hs : Measures p x m s) (ha : AreApart x m) :
    ∀ r ∈ ((s.rows (ofSales sales)).toOption.getD []).map (record x m.name),
      ∃ a b, r = record x m.name [a, b] := by
  intro r hr
  obtain ⟨c, hc, rfl⟩ := List.mem_map.1 hr
  cases hrows : s.rows (ofSales sales) with
  | error f =>
    rw [hrows] at hc
    cases hc
  | ok cells =>
    rw [hrows] at hc
    obtain ⟨a, b, rfl, -⟩ := cells_of_rows hs ha.toAreFound hrows c hc
    exact ⟨a, b, rfl⟩

/-- What a query with an order and a cap gets is the top of what it gets without them. -/
theorem isTop_of_arranged {s : Select} {n : Nat} (hs : Measures p x m s) (ha : AreApart x m)
    (hnull : ∀ r ∈ ((s.rows (ofSales sales)).toOption.getD []).map (record x m.name),
      r.get? m.name ≠ some .null) :
    IsTop m.name p.sortOrder n (((s.rows (ofSales sales)).toOption.getD []).map (record x m.name))
      ((((s.arranged m.name p.sortOrder n).rows (ofSales sales)).toOption.getD []).map
        (record x m.name)) := by
  have hgroups : (s.arranged m.name p.sortOrder n).inGroupOrder (ofSales sales) = false :=
    inGroupOrder_arranged hs ha.toAreFound p.sortOrder n
  have hanswer : ∀ rows ∈ (s.arranged m.name p.sortOrder n).units (ofSales sales),
      (s.arranged m.name p.sortOrder n).answer (ofSales sales) rows =
        (s.cellsOf (ofSales sales) rows).map fun cells => ⟨cells, cells.getD 1 .null⟩ :=
    answer_arranged hs ha.toAreFound p.sortOrder n
  have ht := isUnkeyed_ofSales sales
  cases hrows : s.rows (ofSales sales) with
  | error f =>
    have hempty : ((s.arranged m.name p.sortOrder n).rows (ofSales sales)).toOption.getD [] =
        [] := by
      cases hordered : (s.arranged m.name p.sortOrder n).rows (ofSales sales) with
      | error f' => rfl
      | ok cells =>
        exact Select.rows_ordered_of_error ht hs.orderBy hs.limit hgroups hanswer hrows hordered
    rw [hempty]
    exact ⟨(Nat.min_zero n).symm, .nil, [], .refl _, fun r hr => nomatch hr⟩
  | ok cells =>
    obtain ⟨cells', hperm, hordered⟩ :=
      Select.rows_ordered ht hs.orderBy hs.limit hgroups hanswer hrows
    rw [hrows] at hnull
    rw [hordered]
    exact isTop_of_ordered hperm (cells_of_rows hs ha.toAreFound hrows) hnull

/-- Rows that are ranked already, by the column that a chart picks, are presented as they are. -/
theorem chart_of_column {column : String}
    (hcolumn : ∀ c ∈ Presentation.sortColumn? (Presentation.forChart p).sortCandidates
      (fetch config d today t p .strict), c = column)
    (hranked : (fetch config d today t p .strict).Pairwise (Ranks column p.sortOrder))
    (hlimit : ∀ n ∈ p.limit, (fetch config d today t p .strict).length ≤ n) :
    chart config d today t p = fetch config d today t p .strict := by
  unfold chart
  cases hrows : fetch config d today t p .strict with
  | nil => rfl
  | cons first rest =>
    rw [hrows] at hcolumn hranked hlimit
    exact Presentation.shape_of_ranked hcolumn hranked hlimit

/-- The same for the measure, where no column to sort by is named. -/
theorem chart_of_ranked (hsort : p.sortBy = none) (hx : x ∈ Sale.columns)
    (hm : measure? p ⟨Sale.columns⟩ = some m)
    (hrecords : ∀ r ∈ fetch config d today t p .strict, ∃ a b, r = record x m.name [a, b])
    (hranked : (fetch config d today t p .strict).Pairwise (Ranks m.name p.sortOrder))
    (hlimit : ∀ n ∈ p.limit, (fetch config d today t p .strict).length ≤ n) :
    chart config d today t p = fetch config d today t p .strict := by
  refine chart_of_column ?_ hranked hlimit
  cases hrows : fetch config d today t p .strict with
  | nil => exact fun c hc => nomatch hc
  | cons first rest =>
    rw [hrows] at hrecords
    obtain ⟨a, b, rfl⟩ := hrecords first List.mem_cons_self
    refine eq_name_of_sortColumn? hm hsort hx (fun key hkey => ?_) ?_ rest
    · exact (mem_keys_record.1 hkey).symm
    · exact mem_keys_record.2 (.inl rfl)

/-- **A chart is the top of the analysis.** After any run of operations, where the category and the
measure are found under two names, no column to sort by is named, and no sale or group lacks the
measure. -/
theorem chart_top {d₀ : Disk} (h : Begins config d₀) (steps : List Step) (t : Tenant)
    (today : Calendar.Date) (hsort : p.sortBy = none)
    (hx : category? p (Store.schema config (after config d₀ steps) t) = some x)
    (hm : measure? p (Store.schema config (after config d₀ steps) t) = some m)
    (hne : x ≠ m.name)
    (hnull : ∀ row ∈ analysis config (after config d₀ steps) today t { p with limit := none },
      row.get? m.name ≠ some .null) :
    IsTop m.name p.sortOrder (p.limit.getD defaultLimit)
      (analysis config (after config d₀ steps) today t { p with limit := none })
      (chart config (after config d₀ steps) today t p) := by
  obtain ⟨landed, -, -, hheld⟩ := moved_after h.directory h.holds steps
  have hledger := hheld.ledger t
  generalize after config d₀ steps = d at *
  have hcolumns := columns_ne_nil_of_category hx
  obtain ⟨-, hschema, -⟩ := Store.rows_of_held h.directory hledger hcolumns
  have hs : Measures p x m (compiled { p with limit := none } (Store.schema config d t) today
    .lenient).select := measures_lenient hsort hx hm today
  have hstrict := select_strict hsort hx hm today
  have ha : AreApart x m := areApart_of_found (hschema ▸ hx) (hschema ▸ hm) hne
  generalize withBatches (fun _ => []) landed t = sales at hledger
  have hnames : ((compiled { p with limit := none } (Store.schema config d t) today
      .lenient).select.answerColumns (ofSales sales)).map (Select.outputName (ofSales sales)) =
      [x, m.name] := outputNames_eq hs ha
  have hlenient := fetch_eq h.directory hledger hcolumns rfl hnames
  have hfetch := fetch_eq h.directory hledger hcolumns (isRefused_of_found hx hm)
    (by rw [hstrict]; exact hnames)
  rw [hstrict] at hfetch
  unfold analysis at hnull ⊢
  rw [hlenient] at hnull ⊢
  have htop := isTop_of_arranged (n := p.limit.getD defaultLimit) hs ha hnull
  rw [← hfetch] at htop
  have hrecords : ∀ r ∈ fetch config d today t p .strict, ∃ a b, r = record x m.name [a, b] := by
    intro r hr
    obtain ⟨rest, hperm, -⟩ := htop.others
    have hmem := hperm.mem_iff.2 (List.mem_append_left rest hr)
    exact exists_record hs ha r hmem
  rw [chart_of_ranked hsort ha.category (hschema ▸ hm) hrecords htop.ordered fun n hn => ?_]
  · exact htop
  · have hlength := htop.length
    rw [hn, Option.getD_some] at hlength
    rw [hlength]
    exact Nat.min_le_left _ _

/-- A day on which more rice was sold than oil, and the question what was sold most. -/
def oil : Sale := ⟨"Oil", 150, 20, 2, ⟨2025, 1, 12, by decide⟩, by decide, by decide⟩
def oilThenRice : Disk := after shop blank [⟨.record vendor [oil, rice], []⟩]
def marketDay : Calendar.Date := ⟨2025, 2, 20, by decide⟩

/-- What is held after that day, and the names that are looked up in it. -/
theorem read_oilThenRice :
    Store.heldLedger shop oilThenRice vendor = ofSales [oil, rice] ∧
      Store.schema shop oilThenRice vendor = ⟨Sale.columns⟩ := by decide +kernel

theorem schema_oilThenRice :
    Store.schema shop (after shop blank [⟨.record vendor [oil, rice], []⟩]) vendor =
      ⟨Sale.columns⟩ := read_oilThenRice.2

/-- Whatever was recorded on that day landed. -/
theorem landed_oilThenRice {landed : List Event}
    (hok : ((history shop blank [⟨.record vendor [oil, rice], []⟩]).filter
      Event.succeeded).Sublist landed)
    (hlanded : landed.Sublist (history shop blank [⟨.record vendor [oil, rice], []⟩])) :
    landed.flatMap (Event.batch vendor) = [oil, rice] := by
  rw [eq_of_succeeded hok hlanded (by decide +kernel)]
  rfl

def soldMost : ParameterSet where
  xAxis := some "item"
  yAxis := some "Quantity_Sold"
  aggregation := .none
  filterColumn := none
  filterValue := none
  sortBy := none
  sortOrder := .descending
  limit := some 1
  timePeriod := none

theorem chart_top_soldMost :
    (analysis shop oilThenRice marketDay vendor { soldMost with limit := none }).length = 2 ∧
      IsTop "quantity_sold" .descending 1
        (analysis shop oilThenRice marketDay vendor { soldMost with limit := none })
        (chart shop oilThenRice marketDay vendor soldMost) := by
  have hx : category? soldMost (Store.schema shop oilThenRice vendor) = some "item" := by
    decide +kernel
  have hm : measure? soldMost (Store.schema shop oilThenRice vendor) =
      some (.column "quantity_sold") := by decide +kernel
  have hvalues : ∀ row ∈ analysis shop oilThenRice marketDay vendor { soldMost with limit := none },
      (row.get? "quantity_sold").map Json.isNull = some false := by decide +kernel
  refine ⟨by decide +kernel, chart_top begins_blank _ vendor marketDay rfl hx hm (by decide) ?_⟩
  intro row hrow hnull
  have hvalue := hvalues row hrow
  rw [show row.get? "quantity_sold" = some .null from hnull] at hvalue
  cases hvalue

end SalesLedger.Service
