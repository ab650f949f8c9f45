import SalesLedger.Proofs.Charts
import SalesLedger.Proofs.Meeting

/-!
# Charts with a column to sort by

A chart that names a column to sort by is capped by the engine in the order of that column, and then
ordered once more by a column of its own rows. Where the engine orders by one of the two columns of
the rows, the second ordering is by the same column and changes nothing, so a larger cap only goes
on with the chart (`chart_extends`). Where it orders by a column that the rows do not show, the
second ordering is by the measure, and the first rows of the larger chart may be others
(`chart_not_extended`).

* `eq_key_of_sortColumn?`: the column that a presentation picks.
* `cells_ordered`: the rows of the engine's answer are in the order of the cells that they show.
* `chart_of_answer`, `chart_of_error`: charts of two sizes where the engine answers, and where not.
-/

namespace SalesLedger

open Sql Ledger

namespace Query

/-! ## The column of the second ordering -/

section Words

variable {p : ParameterSet} {x w c : String} {m : Measure}

theorem sortCandidates_cons (hsort : p.sortBy = some w) :
    (Presentation.forChart p).sortCandidates =
      w :: (Presentation.forChart { p with sortBy := none }).sortCandidates := by
  unfold Presentation.forChart
  rw [hsort]
  rfl

/-- What the engine orders by: the column to sort by, or the measure where that is asked for by the
name of the column. -/
theorem orderTarget?_of_found (hsort : p.sortBy = some w)
    (hc : Schema.resolve? ⟨Sale.columns⟩ w = some c)
    (hx : category? p ⟨Sale.columns⟩ = some x) (hm : measure? p ⟨Sale.columns⟩ = some m) :
    ∃ y, p.yAxis = some y ∧ orderTarget? p ⟨Sale.columns⟩ .strict =
      some (if Text.equalAscii y c then m.name else c) := by
  obtain ⟨hmem, hlower⟩ := lower_of_resolve? hc
  have hcolumn : meansRevenue w = false := by
    rw [Bool.eq_false_iff]
    intro hrevenue
    have hword := lower_of_meansRevenue hrevenue
    have htrim := Text.trim_of_lower hword (lower_rowName _ List.mem_cons_self).2
    rw [htrim, hword] at hlower
    subst hlower
    exact absurd hmem (by decide)
  obtain ⟨y, hy, -⟩ := measure?_cases hm
  refine ⟨y, hy, ?_⟩
  unfold orderTarget? orderName?
  dsimp only
  rw [hx, hm, measureName?_eq, hsort, Option.bind_some, hcolumn, if_neg Bool.false_ne_true, hc,
    hy]
  rfl

/-- The measure that is asked for by the name of a column is that column, unless it is the price
and means the revenue. -/
theorem name_of_equalAscii (hm : measure? p ⟨Sale.columns⟩ = some m) {y : String}
    (hy : p.yAxis = some y) (hc : c ∈ Sale.columns) (h : Text.equalAscii y c = true) :
    m.name = c ∨ (m = .revenue ∧ c = priceColumn) := by
  have hascii : Text.lowerAscii c = c ∧ c.toList.all (fun d => d.toNat < 0x80) = true :=
    (by decide : ∀ c ∈ Sale.columns, Text.lowerAscii c = c ∧
      c.toList.all (fun d => d.toNat < 0x80) = true) c hc
  have hlower : Text.lower y = c :=
    Text.lower_of_lowerAscii ((Text.equalAscii_iff.1 h).trans hascii.1) hascii.2
  have htrim := Text.trim_of_lower hlower (lower_rowName c (List.mem_cons_of_mem _ hc)).2
  obtain ⟨y', hy', hasked⟩ := measure?_cases hm
  obtain rfl : y = y' := Option.some.inj (hy.symm.trans hy')
  rw [htrim] at hasked
  rcases hasked with ⟨rfl, hrevenue⟩ | ⟨rfl, hprice, -⟩ | ⟨c', -, rfl, hc'⟩
  · exact .inl (hrevenue.symm.trans hlower)
  · exact .inr ⟨rfl, hlower.symm.trans hprice⟩
  · exact .inl (hc'.symm.trans hlower)

/-- Where a word for a column means one of the rows too, the engine orders by that one, unless the
measure is the revenue that was asked for as the price. -/
theorem eq_target_of_pick? (hc : Schema.resolve? ⟨Sale.columns⟩ w = some c)
    (hx : x ∈ Sale.columns) (hm : measure? p ⟨Sale.columns⟩ = some m) {y : String}
    (hy : p.yAxis = some y) {first : Json.Fields}
    (hkeys : ∀ k ∈ first.map Prod.fst, k = x ∨ k = m.name) {k : String}
    (hpick : pick? first w = some k) :
    k = (if Text.equalAscii y c then m.name else c) ∨
      (k = x ∧ m = .revenue ∧ x = priceColumn ∧ Text.trim w = w) := by
  obtain ⟨hmem, hlower⟩ := lower_of_resolve? hc
  obtain ⟨hk, hword, htrim⟩ := pick?_some hm hx hkeys hpick
  obtain rfl : k = c := by rw [← hlower, htrim, hword]
  split
  · rename_i hequal
    rcases name_of_equalAscii hm hy hmem hequal with hname | ⟨hrevenue, hprice⟩
    · exact .inl hname.symm
    · rcases hk with hcategory | hmeasure
      · exact .inr ⟨hcategory, hrevenue, hcategory.symm.trans hprice, htrim⟩
      · exact .inl hmeasure
  · exact .inl rfl

theorem ne_of_pick?_none (hc : Schema.resolve? ⟨Sale.columns⟩ w = some c)
    (htrim : Text.trim w = w) {first : Json.Fields} (hcategory : x ∈ first.map Prod.fst)
    (hpick : pick? first w = none) : c ≠ x := by
  rintro rfl
  obtain ⟨hmem, hlower⟩ := lower_of_resolve? hc
  have hmatch : (Text.lower c == Text.lower w) = true := by
    rw [beq_iff_eq, (lower_rowName c (List.mem_cons_of_mem _ hmem)).1, ← htrim, hlower]
  exact List.find?_eq_none.1 hpick c hcategory hmatch

/-- **Where the engine orders by a column of the rows, a presentation picks that column, or none.**
Blanks around the word for it only the engine leaves out. -/
theorem eq_key_of_sortColumn? (hsort : p.sortBy = some w)
    (hc : Schema.resolve? ⟨Sale.columns⟩ w = some c)
    (hx : category? p ⟨Sale.columns⟩ = some x) (hm : measure? p ⟨Sale.columns⟩ = some m)
    {key : String} (hkey : orderTarget? p ⟨Sale.columns⟩ .strict = some key)
    (hshown : (key = x ∧ Text.trim w = w) ∨
      (key = m.name ∧ ¬(m = .revenue ∧ x = priceColumn ∧ Text.trim w = w)))
    {first : Json.Fields} (hkeys : ∀ k ∈ first.map Prod.fst, k = x ∨ k = m.name)
    (hcategory : x ∈ first.map Prod.fst) (hmeasure : m.name ∈ first.map Prod.fst)
    (rest : List Json.Fields) :
    ∀ column ∈ Presentation.sortColumn? (Presentation.forChart p).sortCandidates (first :: rest),
      column = key := by
  have hxmem : x ∈ Sale.columns := by
    obtain ⟨_, -, hword⟩ := Option.bind_eq_some_iff.1 hx
    exact Schema.mem_of_resolve? hword
  obtain ⟨y, hy, htarget⟩ := orderTarget?_of_found hsort hc hx hm
  rw [hkey, Option.some.injEq] at htarget
  intro column hcolumn
  rw [sortColumn?_cons, sortCandidates_cons hsort, List.findSome?_cons] at hcolumn
  cases hpick : pick? first w with
  | some k =>
    rw [hpick] at hcolumn
    obtain rfl : k = column := Option.some.inj hcolumn
    rcases eq_target_of_pick? hc hxmem hm hy hkeys hpick with heq | ⟨hk, hprice⟩
    · exact heq.trans htarget.symm
    · rcases hshown with ⟨hcategory', -⟩ | ⟨-, hnot⟩
      · exact hk.trans hcategory'.symm
      · exact absurd hprice hnot
  | none =>
    rw [hpick] at hcolumn
    have hname : column = m.name := eq_name_of_sortColumn? (p := { p with sortBy := none }) hm rfl
      hxmem hkeys hmeasure rest column hcolumn
    rcases hshown with ⟨hcategory', htrim⟩ | ⟨hmeasure', -⟩
    · split at htarget
      · exact hname.trans htarget.symm
      · exact absurd (htarget.symm.trans hcategory') (ne_of_pick?_none hc htrim hcategory hpick)
    · exact hname.trans hmeasure'.symm

end Words

/-! ## The engine's rows -/

section Rows

variable {p : ParameterSet} {x key : String} {m : Measure} {s : Select} {sales : List Sale}
  {d : SortOrder} {n : Nat}

/-- The query of a lenient caller who names neither a column to sort by nor a cap. -/
def unsorted (p : ParameterSet) (schema : Schema) (today : Calendar.Date) : Select :=
  (compiled { p with sortBy := none, limit := none } schema today .lenient).select

/-- A strict caller's query is that query in the order of a column and capped. -/
theorem select_sorted {schema : Schema} (hkey : orderTarget? p schema .strict = some key)
    (today : Calendar.Date) :
    (compiled p schema today .strict).select =
      (unsorted p schema today).arranged key p.sortOrder (p.limit.getD defaultLimit) := by
  unfold compiled
  dsimp only
  rw [hkey]
  rfl

theorem measures_unsorted {schema : Schema} (hx : category? p schema = some x)
    (hm : measure? p schema = some m) (today : Calendar.Date) :
    Measures { p with sortBy := none } x m (unsorted p schema today) :=
  measures_lenient (p := { p with sortBy := none }) rfl hx hm today

theorem equalAscii_rowName : ∀ a ∈ rowNames, ∀ b ∈ rowNames, Text.equalAscii a b = (a == b) := by
  decide

theorem name_mem_of_found (ha : AreFound x m) : m.name ∈ rowNames := by
  cases m with
  | revenue => exact List.mem_cons_self
  | column y => exact List.mem_cons_of_mem _ (ha.measure y rfl)

theorem orderReferent_category (hs : Measures p x m s) (ha : AreFound x m) (hne : x ≠ m.name) :
    (s.arranged x d n).orderReferent (ofSales sales) x = .column (Sale.columns.idxOf x) := by
  refine orderReferent_of_column hs ha.category (fun _ => ?_) d n
  rw [equalAscii_rowName _ (name_mem_of_found ha) _ (List.mem_cons_of_mem _ ha.category)]
  exact beq_false_of_ne (Ne.symm hne)

/-- Groups come in the order of their category, and nothing else does. -/
theorem inGroupOrder_category (hs : Measures p x m s) (ha : AreFound x m) (hne : x ≠ m.name) :
    (s.arranged x d n).inGroupOrder (ofSales sales) = isSummed p m := by
  unfold Select.inGroupOrder
  rw [show (s.arranged x d n).orderBy = some (x, d) from rfl,
    show (s.arranged x d n).groupBy = s.groupBy from rfl, hs.groupBy]
  cases isSummed p m with
  | false => rfl
  | true =>
    rw [if_pos rfl]
    dsimp only
    rw [orderReferent_category hs ha hne, Select.groupReferent, index?_ofSales ha.category]
    exact decide_eq_true rfl

/-- A row that is for itself and ordered by the category has its first cell as its key. -/
theorem answer_category (hs : Measures p x m s) (ha : AreFound x m) (h : isSummed p m = false) :
    ∀ rows ∈ (s.arranged x d n).units (ofSales sales),
      (s.arranged x d n).answer (ofSales sales) rows =
        (s.cellsOf (ofSales sales) rows).map fun cells => ⟨cells, cells.getD 0 .null⟩ := by
  intro rows hrows
  obtain ⟨row, -, rfl⟩ := exists_row_of_mem_units (s := s.arranged x d n)
    ((isSummary_eq hs).trans h) hrows
  obtain ⟨y, rfl, -⟩ := measureOutput_of_plain h
  rw [answer_of_column hs ha rfl h ha.category, cellsOf_of_plain hs ha h rfl]
  rfl

theorem isMeasured_cell (sale : Sale) (c : String) : IsMeasured (.column c) (sale.cell c) :=
  ⟨isLegible_cells sale _, fun hdate =>
    .inl ⟨sale.date, by rw [show c = dateColumn from hdate]; rfl⟩⟩

/-- A row has the category of a sale and a measure. -/
theorem measured_of_unit (hs : Measures p x m s) (ha : AreFound x m) {rows : List Row}
    (hrows : rows ∈ s.units (ofSales sales)) {cells : List Cell}
    (hcells : s.cellsOf (ofSales sales) rows = .ok cells) :
    ∃ a b, cells = [a, b] ∧ IsMeasured (.column x) a ∧ IsMeasured m b := by
  obtain ⟨a, b, rfl, hb⟩ := cells_of_unit hs ha hrows hcells
  refine ⟨a, b, rfl, ?_, hb⟩
  have hgroup : s.isSummary = true → s.groupBy = some x := by
    intro hsummary
    rw [hs.groupBy, if_pos ((isSummary_eq hs).symm.trans hsummary)]
  obtain ⟨group, hne, hgroup⟩ := exists_sales_of_mem_units ha.category hgroup hrows
  obtain ⟨sale, rest, rfl⟩ := List.exists_cons_of_ne_nil hne
  unfold Select.cellsOf at hcells
  rw [answerColumns_eq hs] at hcells
  obtain ⟨a', rest', ha', -, heq⟩ := mapM_cons_ok hcells
  rw [eval_plainOutput ha.category, hgroup] at ha'
  obtain ⟨rfl, -⟩ := List.cons.inj heq
  rw [← Except.ok.inj ha']
  exact isMeasured_cell sale x

theorem measured_of_rows (hs : Measures p x m s) (ha : AreFound x m) {cells : List (List Cell)}
    (hrows : (s.arranged key d n).rows (ofSales sales) = .ok cells) :
    ∀ c ∈ cells, ∃ a b, c = [a, b] ∧ IsMeasured (.column x) a ∧ IsMeasured m b := by
  intro c hc
  obtain ⟨rows, hmem, hcells⟩ := Select.exists_unit_of_mem_rows hrows c hc
  have hunits := Select.units_perm (isUnkeyed_ofSales sales) s key d n
  exact measured_of_unit hs ha (hunits.mem_iff.1 hmem) hcells

/-- Where sales are summed up, the rows have the categories of the groups. -/
theorem categories_of_groups (hs : Measures p x m s) (ha : AreFound x m) (hne : x ≠ m.name)
    (hsummed : isSummed p m = true) {cells : List (List Cell)}
    (h : (s.arranged x d n).rows (ofSales sales) = .ok cells) :
    cells.map (fun c => c.getD 0 .null) =
      ((groupsOf (Sale.cell · x) (aligned (s.arranged x d n) x sales)).take n).map
        fun group => categoryOf x (group.map Sale.cells) := by
  have hgroup : (s.arranged x d n).groupBy = some x := by
    rw [show (s.arranged x d n).groupBy = s.groupBy from rfl, hs.groupBy, if_pos hsummed]
  have hunits : (s.arranged x d n).units (ofSales sales) =
      (s.arranged x d n).groups (ofSales sales) := by
    unfold Select.units
    rw [show (s.arranged x d n).isSummary = s.isSummary from rfl, isSummary_eq hs, if_pos hsummed]
  rw [Select.rows_of_groupOrder ((inGroupOrder_category hs ha hne).trans hsummed), hunits] at h
  have hheads : cells.map (fun c => c.getD 0 .null) =
      (((s.arranged x d n).groups (ofSales sales)).take n).map fun rows =>
        categoryOf x (rows.map Row.cells) := by
    refine map_of_mapM h fun rows _ c hc => ?_
    unfold Select.cellsOf at hc
    rw [show (s.arranged x d n).answerColumns (ofSales sales) =
      s.answerColumns (ofSales sales) from rfl, answerColumns_eq hs] at hc
    obtain ⟨a, rest, hcategory, -, rfl⟩ := mapM_cons_ok hc
    rw [eval_plainOutput ha.category] at hcategory
    exact (Except.ok.inj hcategory).symm
  have hgroups := congrArg (List.map (categoryOf x)) (groups_ofSales ha.category hgroup sales)
  rw [List.map_map, List.map_map] at hgroups
  rw [hheads, List.map_take, List.map_take]
  exact congrArg (List.take n) hgroups

/-- The groups of a category come in its order, whatever is summed up. -/
theorem cells_pairwise_of_groups (hs : Measures p x m s) (ha : AreFound x m) (hne : x ≠ m.name)
    (hsummed : isSummed p m = true) {cells : List (List Cell)}
    (h : (s.arranged x d n).rows (ofSales sales) = .ok cells) :
    cells.Pairwise fun a b => (a.getD 0 .null).leads d (b.getD 0 .null) = true := by
  rw [← List.pairwise_map (f := fun c : List Cell => c.getD 0 .null)
    (R := fun a b => a.leads d b = true), categories_of_groups hs ha hne hsummed h,
    List.pairwise_map]
  have hordered := groupsOf_pairwise (Sale.cell · x)
    (aligned_pairwise ha.category (s.arranged x d n) sales)
  refine (hordered.sublist (List.take_sublist n _)).imp_of_mem fun {g g'} hg hg' hleads => ?_
  obtain ⟨sale, rest, rfl⟩ :=
    List.exists_cons_of_ne_nil (ne_nil_of_mem_groupsOf _ (List.mem_of_mem_take hg))
  obtain ⟨sale', rest', rfl⟩ :=
    List.exists_cons_of_ne_nil (ne_nil_of_mem_groupsOf _ (List.mem_of_mem_take hg'))
  exact hleads sale List.mem_cons_self sale' List.mem_cons_self

/-- A column of the rows, by its name and its place: the measure, or the category under another
name. -/
def IsShown (x : String) (m q : Measure) (place : Nat) : Prop :=
  (q = m ∧ place = 1) ∨ (q = .column x ∧ x ≠ m.name ∧ place = 0)

/-- **The rows of the answer come in the order of the cells that they show.** -/
theorem cells_ordered (hs : Measures p x m s) (ha : AreFound x m) {q : Measure} {place : Nat}
    (hq : IsShown x m q place) {cells : List (List Cell)}
    (h : (s.arranged q.name d n).rows (ofSales sales) = .ok cells) :
    cells.Pairwise fun a b => (a.getD place .null).leads d (b.getD place .null) = true := by
  rcases hq with ⟨rfl, rfl⟩ | ⟨rfl, hne, rfl⟩
  · exact Select.pairwise_of_arranged (inGroupOrder_arranged hs ha d n)
      (answer_arranged hs ha d n) h
  -- groups come in the order of their category, only single sales have to be put into it
  · cases hsummed : isSummed p m with
    | true => exact cells_pairwise_of_groups hs ha hne hsummed h
    | false =>
      exact Select.pairwise_of_arranged ((inGroupOrder_category hs ha hne).trans hsummed)
        (answer_category hs ha hsummed) h

end Rows

end Query

namespace Service

open Storage Query History

/-! ## Charts -/

variable {config : Config} {d : Disk} {t : Tenant} {sales : List Sale} {p : ParameterSet}
  {today : Calendar.Date} {x : String} {m : Measure}

theorem get?_record_shown {q : Measure} {place : Nat} (hq : IsShown x m q place) (a b : Cell) :
    (record x m.name [a, b]).get? q.name =
      some (Presentation.dated q.name ([a, b].getD place .null).toJson) := by
  rcases hq with ⟨rfl, rfl⟩ | ⟨rfl, hne, rfl⟩
  · exact get?_record
  · rw [record_eq, Json.Fields.get?_put_of_ne (show (Measure.column x).name ≠ m.name from hne)]
    exact Json.Fields.get?_put_self _ _ _

/-- **Records of ordered rows are ranked**, where none lacks the value. -/
theorem records_ranked {q : Measure} {place : Nat} (hq : IsShown x m q place)
    {order : SortOrder} {cells : List (List Cell)}
    (hcells : ∀ c ∈ cells, ∃ a b, c = [a, b] ∧ IsMeasured (.column x) a ∧ IsMeasured m b)
    (hordered : cells.Pairwise fun a b =>
      (a.getD place .null).leads order (b.getD place .null) = true)
    (hnull : ∀ r ∈ cells.map (record x m.name), r.get? q.name ≠ some .null) :
    (cells.map (record x m.name)).Pairwise (Ranks q.name order) := by
  have hmeasured : ∀ {a b}, IsMeasured (.column x) a → IsMeasured m b →
      IsMeasured q ([a, b].getD place .null) := by
    intro a b ha hb
    rcases hq with ⟨rfl, rfl⟩ | ⟨rfl, -, rfl⟩
    · exact hb
    · exact ha
  rw [List.pairwise_map]
  refine hordered.imp_of_mem fun {c c'} hc hc' hleads => ?_
  have hn := hnull _ (List.mem_map_of_mem hc)
  have hn' := hnull _ (List.mem_map_of_mem hc')
  obtain ⟨a, b, rfl, ha, hb⟩ := hcells c hc
  obtain ⟨a', b', rfl, ha', hb'⟩ := hcells c' hc'
  exact ranks_of_leads (hmeasured ha hb) (hmeasured ha' hb') (get?_record_shown hq a b)
    (get?_record_shown hq a' b') hn hn' hleads

theorem chart_of_rows {first : Json.Fields} {rest : List Json.Fields}
    (hrows : fetch config d today t p .strict = first :: rest) :
    chart config d today t p = (Presentation.forChart p).shape (first :: rest) := by
  unfold chart
  rw [hrows]

/-- No row is lost by ordering as many rows as are wanted. -/
theorem chart_perm
    (hlimit : ∀ n ∈ p.limit, (fetch config d today t p .strict).length ≤ n) :
    (chart config d today t p).Perm (fetch config d today t p .strict) := by
  cases hrows : fetch config d today t p .strict with
  | nil =>
    unfold chart
    rw [hrows]
  | cons first rest =>
    rw [chart_of_rows hrows]
    rw [hrows] at hlimit
    have hperm := (Presentation.forChart p).sorted_perm (first :: rest)
    unfold Presentation.shape
    split
    · rename_i n hn
      rw [List.take_of_length_le (by rw [hperm.length_eq]; exact hlimit n hn)]
      exact hperm
    · exact hperm

/-- A presentation of ranked rows leaves a larger chart going on with a smaller one. -/
theorem chart_take {key : String} {k k' : Nat}
    (hfirst : fetch config d today t { p with limit := some k } .strict =
      (fetch config d today t { p with limit := some k' } .strict).take k)
    (hlength : (fetch config d today t { p with limit := some k' } .strict).length ≤ k')
    (hcolumn : ∀ n, ∀ column ∈ Presentation.sortColumn? (Presentation.forChart p).sortCandidates
      (fetch config d today t { p with limit := some n } .strict), column = key)
    (hranked : (fetch config d today t { p with limit := some k' } .strict).Pairwise
      (Ranks key p.sortOrder)) :
    chart config d today t { p with limit := some k } =
      (chart config d today t { p with limit := some k' }).take k := by
  have hlarge : chart config d today t { p with limit := some k' } =
      fetch config d today t { p with limit := some k' } .strict :=
    chart_of_column (hcolumn k') hranked fun n hn => Option.some.inj hn ▸ hlength
  have hsmall : chart config d today t { p with limit := some k } =
      fetch config d today t { p with limit := some k } .strict := by
    refine chart_of_column (hcolumn k) ?_ fun n hn => ?_
    · rw [hfirst]
      exact hranked.sublist (List.take_sublist k _)
    · rw [hfirst, ← Option.some.inj hn]
      exact List.length_take_le k _
  rw [hsmall, hlarge, hfirst]

theorem eq_key_of_records {w c key : String} (hsort : p.sortBy = some w)
    (hc : Schema.resolve? ⟨Sale.columns⟩ w = some c)
    (hx : category? p ⟨Sale.columns⟩ = some x) (hm : measure? p ⟨Sale.columns⟩ = some m)
    (hkey : orderTarget? p ⟨Sale.columns⟩ .strict = some key)
    (hshown : (key = x ∧ Text.trim w = w) ∨
      (key = m.name ∧ ¬(m = .revenue ∧ x = priceColumn ∧ Text.trim w = w)))
    {rows : List Json.Fields} (hrecords : ∀ r ∈ rows, ∃ a b, r = record x m.name [a, b]) :
    ∀ column ∈ Presentation.sortColumn? (Presentation.forChart p).sortCandidates rows,
      column = key := by
  cases rows with
  | nil => exact fun column hcolumn => nomatch hcolumn
  | cons first rest =>
    obtain ⟨a, b, rfl⟩ := hrecords first List.mem_cons_self
    refine eq_key_of_sortColumn? hsort hc hx hm hkey hshown (fun k hk => ?_) ?_ ?_ rest
    · exact (mem_keys_record.1 hk).symm
    · exact mem_keys_record.2 (.inr rfl)
    · exact mem_keys_record.2 (.inl rfl)

/-- What a chart is made of: the records of the query's rows, in the order of a column. -/
theorem fetch_sorted (today : Calendar.Date) (hdir : config.HasPlainDirectory)
    (hheld : Store.heldLedger config d t = ofSales sales) {key : String}
    (hx : category? p (Store.schema config d t) = some x)
    (hm : measure? p (Store.schema config d t) = some m) (ha : AreFound x m)
    (hkey : orderTarget? p (Store.schema config d t) .strict = some key) :
    fetch config d today t p .strict =
      ((((unsorted p (Store.schema config d t) today).arranged key p.sortOrder
        (p.limit.getD defaultLimit)).rows (ofSales sales)).toOption.getD []).map
        (record x m.name) := by
  have hselect := select_sorted hkey today
  rw [← hselect]
  refine fetch_eq hdir hheld (columns_ne_nil_of_category hx) (isRefused_of_found hx hm) ?_
  rw [hselect]
  exact outputNames_of_outputs (measures_unsorted hx hm today).outputs ha

/-- Where the order is that of one of the two columns of the rows, it has a place in them. -/
theorem exists_isShown {key : String} (hkey : key = x ∨ key = m.name) :
    ∃ q place, IsShown x m q place ∧ q.name = key := by
  by_cases hname : key = m.name
  · exact ⟨m, 1, .inl ⟨rfl, rfl⟩, hname.symm⟩
  · obtain rfl := hkey.resolve_right hname
    exact ⟨.column key, 0, .inr ⟨rfl, hname, rfl⟩, rfl⟩

section Caps

variable {p₀ : ParameterSet} {s : Select} {key : String} {k k' : Nat} (hs : Measures p₀ x m s)
  (ha : AreFound x m)
  (hfetch : ∀ n, fetch config d today t { p with limit := some n } .strict =
    (((s.arranged key p.sortOrder n).rows (ofSales sales)).toOption.getD []).map
      (record x m.name))

include hs ha hfetch

theorem exists_record_of_sorted (n : Nat) :
    ∀ r ∈ fetch config d today t { p with limit := some n } .strict,
      ∃ a b, r = record x m.name [a, b] := by
  intro r hr
  rw [hfetch] at hr
  obtain ⟨c, hc, rfl⟩ := List.mem_map.1 hr
  cases hrows : (s.arranged key p.sortOrder n).rows (ofSales sales) with
  | error f =>
    rw [hrows] at hc
    cases hc
  | ok cells =>
    rw [hrows] at hc
    obtain ⟨a, b, rfl, -⟩ := measured_of_rows hs ha hrows c hc
    exact ⟨a, b, rfl⟩

/-- Where the measure cannot be worked out for one chart, every chart is empty. -/
theorem chart_of_error (hkey : key = m.name) {f : Fault}
    (hrows : (s.arranged key p.sortOrder k').rows (ofSales sales) = .error f) (n : Nat) :
    chart config d today t { p with limit := some n } = [] := by
  subst hkey
  have hnone := Select.rows_of_error (k := n) (isUnkeyed_ofSales sales)
    (inGroupOrder_arranged hs ha p.sortOrder k') hrows
  unfold chart
  rw [hfetch, hnone]
  rfl

/-- **Where the engine answers**, the larger chart only goes on with the smaller one. -/
theorem chart_of_answer (hkey : key = x ∨ key = m.name) (hk : k ≤ k')
    (hcolumn : ∀ n, ∀ column ∈ Presentation.sortColumn? (Presentation.forChart p).sortCandidates
      (fetch config d today t { p with limit := some n } .strict), column = key)
    {cells : List (List Cell)}
    (hrows : (s.arranged key p.sortOrder k').rows (ofSales sales) = .ok cells)
    (hnull : ∀ row ∈ chart config d today t { p with limit := some k' },
      row.get? key ≠ some .null) :
    chart config d today t { p with limit := some k } =
      (chart config d today t { p with limit := some k' }).take k := by
  obtain ⟨q, place, hq, rfl⟩ := exists_isShown hkey
  have hlarge : fetch config d today t { p with limit := some k' } .strict =
      cells.map (record x m.name) := by
    rw [hfetch, hrows]
    rfl
  have hfirst : fetch config d today t { p with limit := some k } .strict =
      (cells.map (record x m.name)).take k := by
    rw [hfetch, Select.rows_take (isUnkeyed_ofSales sales) hk hrows, ← List.map_take]
    rfl
  have hlength : (cells.map (record x m.name)).length ≤ k' := by
    rw [List.length_map]
    exact Select.length_rows_le (isUnkeyed_ofSales sales) hrows
  -- the larger chart has these records, so what is known of its rows is known of them
  have hperm : (chart config d today t { p with limit := some k' }).Perm
      (cells.map (record x m.name)) := by
    rw [← hlarge]
    refine chart_perm fun n hn => ?_
    rw [hlarge, ← Option.some.inj hn]
    exact hlength
  refine chart_take (hlarge ▸ hfirst) (hlarge ▸ hlength) hcolumn ?_
  rw [hlarge]
  exact records_ranked hq (measured_of_rows hs ha hrows) (cells_ordered hs ha hq hrows)
    fun r hr => hnull r (hperm.mem_iff.2 hr)

end Caps

/-- **A larger limit only goes on with a chart.** After any run of operations, where the category,
the measure and the column to sort by are found, the engine orders by one of the two columns of the
rows, and no row of the larger chart lacks the value in it. The presentation then orders by the same
column. -/
theorem chart_extends {d₀ : Disk} (h : Begins config d₀) (steps : List Step) (t : Tenant)
    (today : Calendar.Date) {w c key : String} {k k' : Nat} (hsort : p.sortBy = some w)
    (hc : (Store.schema config (after config d₀ steps) t).resolve? w = some c)
    (hx : category? p (Store.schema config (after config d₀ steps) t) = some x)
    (hm : measure? p (Store.schema config (after config d₀ steps) t) = some m)
    (hkey : orderTarget? p (Store.schema config (after config d₀ steps) t) .strict = some key)
    (hshown : (key = x ∧ Text.trim w = w ∧
        ∃ rows, Store.query config (after config d₀ steps) t (compiled { p with limit := some k' }
          (Store.schema config (after config d₀ steps) t) today .strict).select = .ok rows) ∨
      (key = m.name ∧ ¬(m = .revenue ∧ x = priceColumn ∧ Text.trim w = w)))
    (hk : k ≤ k')
    (hnull : ∀ row ∈ chart config (after config d₀ steps) today t { p with limit := some k' },
      row.get? key ≠ some .null) :
    (∀ column ∈ Presentation.sortColumn? (Presentation.forChart p).sortCandidates
        (fetch config (after config d₀ steps) today t { p with limit := some k' } .strict),
      column = key) ∧
    chart config (after config d₀ steps) today t { p with limit := some k } =
      (chart config (after config d₀ steps) today t { p with limit := some k' }).take k := by
  obtain ⟨landed, -, -, hheld⟩ := exists_landed h steps
  have hledger := hheld t
  generalize after config d₀ steps = d at *
  generalize landed.flatMap (Event.batch t) = sales at hledger
  have hcolumns := columns_ne_nil_of_category hx
  obtain ⟨-, hschema, -⟩ := Store.rows_of_held h.directory hledger hcolumns
  have ha : AreFound x m := areFound_of_found (hschema ▸ hx) (hschema ▸ hm)
  have hs := measures_unsorted hx hm today
  have hfetch : ∀ n, fetch config d today t { p with limit := some n } .strict =
      ((((unsorted p (Store.schema config d t) today).arranged key p.sortOrder n).rows
        (ofSales sales)).toOption.getD []).map (record x m.name) :=
    fun n => fetch_sorted (p := { p with limit := some n }) today h.directory hledger hx hm ha hkey
  have hcolumn : ∀ n, ∀ column ∈ Presentation.sortColumn?
      (Presentation.forChart p).sortCandidates
      (fetch config d today t { p with limit := some n } .strict), column = key := by
    intro n
    have hrecords := exists_record_of_sorted hs ha hfetch n
    rw [hschema] at hc hx hm hkey
    exact eq_key_of_records hsort hc hx hm hkey
      (hshown.imp_left fun hcategory => ⟨hcategory.1, hcategory.2.1⟩) hrecords
  refine ⟨hcolumn k', ?_⟩
  have hselect : (compiled { p with limit := some k' } (Store.schema config d t) today
      .strict).select = (unsorted p (Store.schema config d t) today).arranged key p.sortOrder k' :=
    select_sorted (p := { p with limit := some k' }) hkey today
  generalize unsorted p (Store.schema config d t) today = s at *
  cases hrows : (s.arranged key p.sortOrder k').rows (ofSales sales) with
  | error f =>
    -- only where the order is that of the measure may the engine have no answer
    rcases hshown with ⟨-, -, rows, hanswered⟩ | ⟨hname, -⟩
    · have htable : (s.arranged key p.sortOrder k').table = Ledger.table := hs.table
      rw [hselect, Store.query_of_held h.directory hledger hcolumns htable, Select.run, hrows]
        at hanswered
      cases hanswered
    · have hnone := chart_of_error hs ha hfetch hname hrows
      rw [hnone, hnone, List.take_nil]
  | ok cells =>
    exact chart_of_answer hs ha hfetch (hshown.imp And.left And.left) hk hcolumn hrows hnull

/-- The question what was sold how often, with the items in the order of a column. -/
def soldBy (column : String) (limit : Nat) : ParameterSet :=
  { soldMost with sortBy := some column, limit := some limit }

theorem rows_soldBy {s : Select} {a b : Answered} (hgroups : s.inGroupOrder (ofSales sales) = false)
    (hlimit : s.limit = some 2)
    (hanswers : (s.units (ofSales sales)).mapM (s.answer (ofSales sales)) = .ok [a, b]) :
    s.rows (ofSales sales) = .ok (if a.key.leads s.direction b.key = true
      then [a.cells, b.cells] else [b.cells, a.cells]) := by
  rw [Select.rows_of_otherOrder hgroups, if_neg (by rw [hlimit]; decide), hanswers]
  simp only [Select.capped, hlimit]
  show Except.ok (((order _ Answered.key [a, b]).take 2).map Answered.cells) = _
  rw [order_pair]
  split <;> rfl

/-- The query of the two sales that is not sorted. -/
def soldQuery : Select := unsorted soldMost ⟨Sale.columns⟩ marketDay

theorem fetch_soldBy {column key : String} {n : Nat}
    (hkey : orderTarget? (soldBy column n) ⟨Sale.columns⟩ .strict = some key) :
    fetch shop oilThenRice marketDay vendor (soldBy column n) .strict =
      (((soldQuery.arranged key .descending n).rows (ofSales [oil, rice])).toOption.getD []).map
        (record "item" "quantity_sold") := by
  have hfound : category? soldMost ⟨Sale.columns⟩ = some "item" ∧
      measure? soldMost ⟨Sale.columns⟩ = some (.column "quantity_sold") := by decide
  have hsorted := fetch_sorted (p := soldBy column n) marketDay begins_blank.directory
    read_oilThenRice.1 (read_oilThenRice.2 ▸ hfound.1) (read_oilThenRice.2 ▸ hfound.2)
    (areFound_of_found hfound.1 hfound.2) (read_oilThenRice.2 ▸ hkey)
  rw [read_oilThenRice.2] at hsorted
  exact hsorted

/-- What a chart shows of the sale of an item. -/
def soldRecord (item : String) (sold : Int) : Json.Fields :=
  [("item", .text item), ("quantity_sold", .integer sold)]

theorem record_sold (item : String) (sold : Int) :
    record "item" "quantity_sold" [.text item, .integer sold] = soldRecord item sold := by
  rw [record_eq, Presentation.dated_of_ne (by decide), Presentation.dated_of_ne (by decide)]
  rfl

theorem rows_byPrice : (soldQuery.arranged "price" .descending 2).rows (ofSales [oil, rice]) =
    .ok [[.text "Oil", .integer 2], [.text "Rice", .integer 5]] := by
  rw [rows_soldBy rfl rfl (a := ⟨[.text "Oil", .integer 2], .real 150⟩)
    (b := ⟨[.text "Rice", .integer 5], .real 100⟩) (by rfl), if_pos (by decide)]

theorem chart_byPrice_one : chart shop oilThenRice marketDay vendor (soldBy "price" 1) =
    [soldRecord "Oil" 2] := by
  have htarget : orderTarget? (soldBy "price" 1) ⟨Sale.columns⟩ .strict = some "price" := by
    decide
  have hfetch : fetch shop oilThenRice marketDay vendor (soldBy "price" 1) .strict =
      [soldRecord "Oil" 2] := by
    rw [fetch_soldBy htarget, Select.rows_take (isUnkeyed_ofSales [oil, rice])
      (by decide : 1 ≤ 2) rows_byPrice]
    exact congrArg (· :: []) (record_sold "Oil" 2)
  have hcolumn : Presentation.sortColumn?
      (Presentation.forChart (soldBy "price" 1)).sortCandidates [soldRecord "Oil" 2] =
      some "quantity_sold" := by decide
  rw [chart_of_rows hfetch]
  unfold Presentation.shape Presentation.sorted
  rw [hcolumn]
  dsimp only
  rw [List.mergeSort_singleton]
  rfl

theorem chart_byPrice_two : chart shop oilThenRice marketDay vendor (soldBy "price" 2) =
    [soldRecord "Rice" 5, soldRecord "Oil" 2] := by
  have htarget : orderTarget? (soldBy "price" 2) ⟨Sale.columns⟩ .strict = some "price" := by
    decide
  have hfetch : fetch shop oilThenRice marketDay vendor (soldBy "price" 2) .strict =
      [soldRecord "Oil" 2, soldRecord "Rice" 5] := by
    rw [fetch_soldBy htarget, rows_byPrice]
    exact congrArg₂ (· :: [·]) (record_sold "Oil" 2) (record_sold "Rice" 5)
  have hcolumn : Presentation.sortColumn?
      (Presentation.forChart (soldBy "price" 2)).sortCandidates
      [soldRecord "Oil" 2, soldRecord "Rice" 5] = some "quantity_sold" := by decide
  rw [chart_of_rows hfetch]
  unfold Presentation.shape Presentation.sorted
  rw [hcolumn]
  dsimp only
  rw [mergeSort_pair, if_neg (by decide)]
  rfl

/-- **A column that the rows do not show.** The engine takes the dearer item, oil, into the chart of
one row; of two rows the presentation puts first what was sold more often, rice. -/
theorem chart_not_extended :
    isRefused (soldBy "price" 2) (Store.schema shop oilThenRice vendor) .strict = false ∧
      (Store.schema shop oilThenRice vendor).resolve? "price" = some "price" ∧
      chart shop oilThenRice marketDay vendor (soldBy "price" 1) = [soldRecord "Oil" 2] ∧
      chart shop oilThenRice marketDay vendor (soldBy "price" 2) =
        [soldRecord "Rice" 5, soldRecord "Oil" 2] ∧
      chart shop oilThenRice marketDay vendor (soldBy "price" 1) ≠
        (chart shop oilThenRice marketDay vendor (soldBy "price" 2)).take 1 := by
  refine ⟨?_, ?_, chart_byPrice_one, chart_byPrice_two, ?_⟩
  · rw [read_oilThenRice.2]
    decide
  · rw [read_oilThenRice.2]
    decide
  · rw [chart_byPrice_one, chart_byPrice_two]
    simp [soldRecord]

/-- In the order of the items, the chart of one row is the first of the two. -/
theorem chart_extends_soldBy :
    chart shop oilThenRice marketDay vendor (soldBy "item" 1) =
      (chart shop oilThenRice marketDay vendor (soldBy "item" 2)).take 1 := by
  have hrows : (soldQuery.arranged "item" .descending 2).rows (ofSales [oil, rice]) =
      .ok [[.text "Rice", .integer 5], [.text "Oil", .integer 2]] := by
    rw [rows_soldBy rfl rfl (a := ⟨[.text "Oil", .integer 2], .text "Oil"⟩)
      (b := ⟨[.text "Rice", .integer 5], .text "Rice"⟩) (by rfl), if_neg (by decide)]
  have htarget : orderTarget? (soldBy "item" 2) ⟨Sale.columns⟩ .strict = some "item" := by
    decide
  have hfetch : fetch shop oilThenRice marketDay vendor (soldBy "item" 2) .strict =
      [soldRecord "Rice" 5, soldRecord "Oil" 2] := by
    rw [fetch_soldBy htarget, hrows]
    exact congrArg₂ (· :: [·]) (record_sold "Rice" 5) (record_sold "Oil" 2)
  have hperm : (chart shop oilThenRice marketDay vendor (soldBy "item" 2)).Perm
      [soldRecord "Rice" 5, soldRecord "Oil" 2] := by
    rw [← hfetch]
    refine chart_perm fun n hn => ?_
    rw [hfetch, ← Option.some.inj hn]
    exact Nat.le_refl 2
  have hanswered : ∃ rows, Store.query shop oilThenRice vendor (compiled (soldBy "item" 2)
      (Store.schema shop oilThenRice vendor) marketDay .strict).select = .ok rows := by
    rw [read_oilThenRice.2, select_sorted htarget marketDay]
    refine ⟨[soldRecord "Rice" 5, soldRecord "Oil" 2],
      (Store.query_of_held begins_blank.directory read_oilThenRice.1
        (by rw [read_oilThenRice.2]; decide) rfl).trans ?_⟩
    show (Select.run (soldQuery.arranged "item" .descending 2) (ofSales [oil, rice])).mapError _ = _
    rw [Select.run, hrows]
    rfl
  have hschema : Store.schema shop (after shop blank [⟨.record vendor [oil, rice], []⟩]) vendor =
      ⟨Sale.columns⟩ := read_oilThenRice.2
  have hfound : Schema.resolve? ⟨Sale.columns⟩ "item" = some "item" ∧
      category? (soldBy "item" 2) ⟨Sale.columns⟩ = some "item" ∧
      measure? (soldBy "item" 2) ⟨Sale.columns⟩ = some (.column "quantity_sold") := by
    decide
  have hextends := chart_extends (p := soldBy "item" 2) begins_blank
    [⟨.record vendor [oil, rice], []⟩] vendor marketDay (w := "item") (c := "item") (x := "item")
    (m := .column "quantity_sold") (k := 1) rfl
    (hschema ▸ hfound.1) (hschema ▸ hfound.2.1) (hschema ▸ hfound.2.2) (hschema ▸ htarget)
    (.inl ⟨rfl, by decide, hanswered⟩) (by decide) ?_
  · exact hextends.2
  · intro row hrow
    rcases List.mem_pair.1 (hperm.mem_iff.1 hrow) with rfl | rfl
    · simp [soldRecord, Json.Fields.get?]
    · simp [soldRecord, Json.Fields.get?]

end Service

end SalesLedger
