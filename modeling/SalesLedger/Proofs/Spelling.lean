import SalesLedger.Proofs.Sorting

/-!
# Ways to spell a question

Names are looked up without their case and words are read without theirs, by two rules: Unicode's
for columns, that of ASCII for the revenue, the price and the fixed words. `answers_of_respelled`: a
question asks the same in whatever case and with whatever blanks its names and words are spelled.

* `AskAlike`: parameter sets that differ in the case of their names alone.
* `orderName?_eq`: the one place where the rules meet. Words are compared with a column by ASCII's
  rule there, which comes to the same as looking them up.
* `compile_of_alike`, `shape_of_alike`: such sets compile alike and present rows alike.
-/

namespace SalesLedger

open Storage

/-! ## Names -/

/-- Names that differ in their case alone. Blanks at their ends are gone. -/
inductive SameName : Option String → Option String → Prop where
  | absent : SameName none none
  | named {s t : String} (hs : Text.trim s = s) (ht : Text.trim t = t)
      (h : Text.lower s = Text.lower t) : SameName (some s) (some t)

theorem SameName.trim_eq {o o' : Option String} (h : SameName o o') :
    (∀ s ∈ o, Text.trim s = s) ∧ ∀ t ∈ o', Text.trim t = t := by
  cases h with
  | absent => exact ⟨nofun, nofun⟩
  | named hs ht =>
    constructor <;> rintro _ ⟨⟩
    · exact hs
    · exact ht

theorem SameName.toList_lower {o o' : Option String} (h : SameName o o') :
    o.toList.map Text.lower = o'.toList.map Text.lower := by
  cases h with
  | absent => rfl
  | named hs ht h => exact congrArg (fun s => [s]) h

theorem SameName.bind {α : Type} {o o' : Option String} {f g : String → Option α}
    (h : SameName o o') (hfg : ∀ s t, Text.trim s = s → Text.trim t = t →
      Text.lower s = Text.lower t → f s = g t) : o.bind f = o'.bind g := by
  cases h with
  | absent => rfl
  | named hs ht h => exact hfg _ _ hs ht h

/-- Sets that ask for the same in names of another case. -/
structure AskAlike (p q : ParameterSet) : Prop where
  xAxis : SameName p.xAxis q.xAxis
  yAxis : SameName p.yAxis q.yAxis
  aggregation : p.aggregation = q.aggregation
  filterColumn : SameName p.filterColumn q.filterColumn
  filterValue : p.filterValue = q.filterValue
  sortBy : SameName p.sortBy q.sortBy
  sortOrder : p.sortOrder = q.sortOrder
  limit : p.limit = q.limit
  window : ∀ today, (p.timePeriod.bind fun token => Calendar.resolveWindow? token today) =
    q.timePeriod.bind fun token => Calendar.resolveWindow? token today

theorem Schema.resolve?_congr (schema : Schema) {s t : String}
    (h : Text.lower (Text.trim s) = Text.lower (Text.trim t)) :
    schema.resolve? s = schema.resolve? t := by
  have hempty : Text.trim s = "" ↔ Text.trim t = "" := by
    rw [← Text.lower_eq_empty_iff, h, Text.lower_eq_empty_iff]
  unfold resolve?
  simp only [h, hempty]

theorem Schema.resolve?_of_trimmed (schema : Schema) {s t : String} (hs : Text.trim s = s)
    (ht : Text.trim t = t) (h : Text.lower s = Text.lower t) :
    schema.resolve? s = schema.resolve? t :=
  schema.resolve?_congr (by rw [hs, ht, h])

theorem Schema.lower_of_resolve? {schema : Schema} {s c : String}
    (h : schema.resolve? s = some c) : Text.lower c = Text.lower (Text.trim s) := by
  unfold resolve? at h
  dsimp only at h
  split at h
  · cases h
  · have hfound := List.find?_some h
    rw [beq_iff_eq] at hfound
    exact hfound

namespace Query

/-- The two rules agree on the revenue: its name has no `k`. -/
theorem meansRevenue_congr {s t : String} (h : Text.lower s = Text.lower t) :
    meansRevenue s = meansRevenue t := by
  rw [Bool.eq_iff_iff]
  exact ⟨fun hs => meansRevenue_of_lower (h ▸ lower_of_meansRevenue hs),
    fun ht => meansRevenue_of_lower (h.symm ▸ lower_of_meansRevenue ht)⟩

theorem lower_of_price {s : String} (h : Text.equalAscii s priceColumn = true) :
    Text.lower s = priceColumn :=
  Text.lower_of_lowerAscii ((Text.equalAscii_iff.1 h).trans (by decide +kernel))
    (by decide +kernel)

/-- The two rules agree on the price. -/
theorem equalAscii_price_congr {s t : String} (h : Text.lower s = Text.lower t) :
    Text.equalAscii s priceColumn = Text.equalAscii t priceColumn := by
  rw [Bool.eq_iff_iff]
  exact ⟨fun hs => equalAscii_price (h ▸ lower_of_price hs),
    fun ht => equalAscii_price (h.symm ▸ lower_of_price ht)⟩

/-! ## Compiling -/

section Compiling

variable {p q : ParameterSet} {schema : Schema}

/-- **Words that are a column by ASCII's rule are looked up as that column.** -/
theorem column?_of_equalAscii {w y c : String} (hc : schema.resolve? w = some c)
    (hw : Text.trim w = w) (hrevenue : meansRevenue w = false) (hy : Text.trim y = y)
    (h : Text.equalAscii y c = true) : column? schema (some y) = some c := by
  have hlower : Text.lower y = Text.lower w := by
    rw [Text.lower_of_equalAscii h, Schema.lower_of_resolve? hc, hw]
  have hfound : schema.resolve? y = some c := by
    rw [← hc]
    exact schema.resolve?_congr (by rw [hw, hy, hlower])
  rw [column?, Option.bind_some, meansRevenue_congr hlower, hrevenue, if_neg Bool.false_ne_true,
    hfound]

/-- **Words that are looked up as a column are that column by ASCII's rule**, or are measured under
the name of the column. -/
theorem name_of_column? {y c name : String} {x : Option String} (hp : p.yAxis = some y)
    (hy : Text.trim y = y) (hc : column? schema (some y) = some c)
    (hname : measureName? (measure? p schema) x = some name) (h : Text.equalAscii y c = false) :
    name = c := by
  obtain ⟨hrevenue, hfound⟩ : meansRevenue y = false ∧ schema.resolve? y = some c := by
    rw [column?, Option.bind_some] at hc
    split at hc
    · cases hc
    · rename_i hnot
      exact ⟨by simpa using hnot, hc⟩
  have hprice : Text.equalAscii c priceColumn = false := by
    rw [Bool.eq_false_iff]
    intro hprice
    have hlower : Text.lower y = Text.lower c := by
      rw [Schema.lower_of_resolve? hfound, hy]
    rw [← equalAscii_price_congr hlower] at hprice
    refine Bool.eq_false_iff.1 h (Text.equalAscii_trans hprice (Text.equalAscii_symm ?_))
    rw [← equalAscii_price_congr hlower]
    exact hprice
  have hm : measure? p schema = some (.column c) := by
    rw [measure?, hp, Option.bind_some, hrevenue, if_neg Bool.false_ne_true, hc, Option.map_some,
      hprice]
    rfl
  rw [hm] at hname
  cases x with
  | none => cases hname
  | some x => exact (Option.some.inj hname).symm

/-- What rows are ordered by, told by what the names are looked up as. -/
theorem orderName?_eq (hy : ∀ y ∈ p.yAxis, Text.trim y = y) (hw : ∀ w ∈ p.sortBy, Text.trim w = w)
    (x : Option String) :
    orderName? p schema (measure? p schema) (measureName? (measure? p schema) x) =
      p.sortBy.bind fun w =>
        if meansRevenue w then if measure? p schema = some .revenue then some totalSales else none
        else (schema.resolve? w).map fun c =>
          if column? schema p.yAxis = some c then
            (measureName? (measure? p schema) x).getD c
          else c := by
  unfold orderName?
  cases hsort : p.sortBy with
  | none => rfl
  | some w =>
    rw [Option.bind_some, Option.bind_some]
    split
    · rfl
    · rename_i hrevenue
      cases hc : schema.resolve? w with
      | none => rfl
      | some c =>
        refine congrArg some ?_
        cases hp : p.yAxis with
        | none => rfl
        | some y =>
          have hy' := hy y hp
          cases hname : measureName? (measure? p schema) x with
          | none => exact (ite_self c).symm
          | some name =>
            dsimp only [Option.getD_some]
            cases hequal : Text.equalAscii y c with
            | true =>
              have hcolumn := column?_of_equalAscii hc (hw w hsort) (by simpa using hrevenue) hy'
                hequal
              rw [if_pos rfl, if_pos hcolumn]
            | false =>
              rw [if_neg Bool.false_ne_true]
              split
              · rename_i hcolumn
                exact (name_of_column? hp hy' hcolumn hname hequal).symm
              · rfl

variable (h : AskAlike p q)

include h

theorem category?_of_alike : category? p schema = category? q schema :=
  h.xAxis.bind fun _ _ => schema.resolve?_of_trimmed

theorem column?_of_alike : column? schema p.yAxis = column? schema q.yAxis :=
  h.yAxis.bind fun s t hs ht hlower => by
    rw [meansRevenue_congr hlower, schema.resolve?_of_trimmed hs ht hlower]

theorem measure?_of_alike : measure? p schema = measure? q schema :=
  h.yAxis.bind fun s t hs ht hlower => by
    rw [meansRevenue_congr hlower, column?_of_alike h, h.aggregation]

theorem conditions_of_alike (today : Calendar.Date) :
    conditions p schema today = conditions q schema today := by
  have hcolumn : p.filterColumn.bind schema.resolve? = q.filterColumn.bind schema.resolve? :=
    h.filterColumn.bind fun _ _ => schema.resolve?_of_trimmed
  rw [conditions, conditions, h.window today, filterCondition?, filterCondition?, hcolumn,
    h.filterValue]

theorem orderName?_of_alike (x : Option String) :
    orderName? p schema (measure? p schema) (measureName? (measure? p schema) x) =
      orderName? q schema (measure? q schema) (measureName? (measure? q schema) x) := by
  rw [orderName?_eq h.yAxis.trim_eq.1 h.sortBy.trim_eq.1,
    orderName?_eq h.yAxis.trim_eq.2 h.sortBy.trim_eq.2, measure?_of_alike h, column?_of_alike h]
  exact h.sortBy.bind fun s t hs ht hlower => by
    rw [meansRevenue_congr hlower, schema.resolve?_of_trimmed hs ht hlower]

theorem isRefused_of_alike (shape : Shape) :
    isRefused p schema shape = isRefused q schema shape := by
  rw [isRefused, isRefused, category?_of_alike h, measure?_of_alike h]

theorem compiled_of_alike (today : Calendar.Date) (shape : Shape) :
    compiled p schema today shape = compiled q schema today shape := by
  have horder : orderTarget? p schema shape = orderTarget? q schema shape := by
    unfold orderTarget?
    dsimp only
    rw [orderName?_of_alike h, category?_of_alike h, measure?_of_alike h]
  have houtputs : outputs? p = outputs? q := by
    funext measure x
    unfold outputs?
    rw [h.aggregation]
  have hgroup : groupBy? p = groupBy? q := by
    funext measure x
    unfold groupBy?
    rw [h.aggregation]
  have hlimit : rowLimit? p shape = rowLimit? q shape := by
    unfold rowLimit?
    rw [h.limit]
  unfold compiled
  dsimp only
  rw [category?_of_alike h, measure?_of_alike h, horder, houtputs, hgroup, hlimit,
    conditions_of_alike h, h.sortOrder]

/-- **Sets that ask for the same in names of another case** compile to one query, or both are
refused. -/
theorem compile_of_alike (today : Calendar.Date) (shape : Shape) :
    (compile p schema today shape).toOption = (compile q schema today shape).toOption := by
  rw [compile, compile, isRefused_of_alike h, compiled_of_alike h]
  -- the message of a refusal names the axes as they were asked for
  split <;> rfl

end Compiling

end Query

/-! ## Presenting -/

namespace Presentation

/-- Candidates are compared by their lowercase forms alone. -/
theorem sortColumn?_congr {words words' : List String}
    (h : words.map Text.lower = words'.map Text.lower) (rows : List Json.Fields) :
    sortColumn? words rows = sortColumn? words' rows := by
  have hpick : ∀ (first : Json.Fields) (words : List String),
      words.findSome? (Query.pick? first) = (words.map Text.lower).findSome? fun word =>
        (first.map Prod.fst).find? fun key => Text.lower key == word := by
    intro first words
    rw [List.findSome?_map]
    rfl
  cases rows with
  | nil => rfl
  | cons first rest =>
    rw [Query.sortColumn?_cons, Query.sortColumn?_cons, hpick, hpick, h]

variable {p q : ParameterSet} (h : AskAlike p q)

include h

theorem sortCandidates_of_alike : (forChart p).sortCandidates.map Text.lower =
    (forChart q).sortCandidates.map Text.lower := by
  unfold forChart
  dsimp only
  rw [List.map_append, List.map_append, h.sortBy.toList_lower, h.aggregation]
  refine congrArg (q.sortBy.toList.map Text.lower ++ ·) ?_
  have hy := h.yAxis
  generalize p.yAxis = y at hy ⊢
  generalize q.yAxis = y' at hy ⊢
  cases hy with
  | absent => rfl
  | named hs ht hlower =>
    dsimp only
    rw [Query.equalAscii_price_congr hlower]
    split <;> simp only [List.map_cons, List.map_nil, hlower]

/-- **Sets that ask for the same in names of another case** present rows in one way. -/
theorem shape_of_alike (rows : List Json.Fields) :
    (forChart p).shape rows = (forChart q).shape rows := by
  have hsorted : (forChart p).sorted rows = (forChart q).sorted rows := by
    unfold sorted
    rw [sortColumn?_congr (sortCandidates_of_alike h)]
    simp only [forChart, h.sortOrder]
  unfold shape
  rw [hsorted]
  simp only [forChart, h.limit]

end Presentation

namespace Service

variable {p q : ParameterSet} (h : AskAlike p q)

include h

theorem fetch_of_alike (config : Config) (d : Disk) (today : Calendar.Date) (t : Tenant)
    (shape : Query.Shape) : fetch config d today t p shape = fetch config d today t q shape := by
  have hcompile : (compile config d today t p shape).toOption =
      (compile config d today t q shape).toOption := Query.compile_of_alike h today shape
  unfold fetch
  generalize compile config d today t p shape = compiled at hcompile ⊢
  generalize compile config d today t q shape = compiled' at hcompile ⊢
  cases compiled <;> cases compiled' <;> cases hcompile <;> rfl

theorem chart_of_alike (config : Config) (d : Disk) (today : Calendar.Date) (t : Tenant) :
    chart config d today t p = chart config d today t q := by
  unfold chart
  rw [fetch_of_alike h]
  split
  · rfl
  · exact Presentation.shape_of_alike h _

end Service

/-! ## Questions as they are spelled -/

/-- Values under one key of two objects that a fold of case cannot tell apart: they are the same, or
texts that the fold makes the same once the blanks at their ends are gone. -/
def FoldsAlike (fold : String → String) (v w : Option Json) : Prop :=
  v = w ∨ ∃ s t, v = some (.text s) ∧ w = some (.text t) ∧
    fold (Text.trim s) = fold (Text.trim t)

/-- Whether a text is the word for a period. -/
def namesPeriod (s : String) : Bool :=
  (Calendar.Period.named.lookup (Text.lowerAscii (Text.trim s))).isSome

/-- Two objects that spell one question: names in any case, words in any case of ASCII, either with
blanks around them. A range of dates is no word. -/
structure Respelled (a b : Json.Fields) : Prop where
  names : ∀ key ∈ ["x_axis", "y_axis", "filter_column", "sort_by"],
    FoldsAlike Text.lower (a.get? key) (b.get? key)
  words : ∀ key ∈ ["aggregation", "sort_order"],
    FoldsAlike Text.lowerAscii (a.get? key) (b.get? key)
  period : a.get? "time_period" = b.get? "time_period" ∨
    ∃ s t, a.get? "time_period" = some (.text s) ∧ b.get? "time_period" = some (.text t) ∧
      Text.lowerAscii (Text.trim s) = Text.lowerAscii (Text.trim t) ∧ namesPeriod s = true
  values : ∀ key ∈ ["filter_value", "limit"], a.get? key = b.get? key

theorem sameName_refl {v : Option Json} : SameName (v.bind nameOf?) (v.bind nameOf?) := by
  cases hname : v.bind nameOf? with
  | none => exact .absent
  | some s =>
    obtain ⟨w, -, hw⟩ := Option.bind_eq_some_iff.1 hname
    exact .named (trim_nameOf? hw) (trim_nameOf? hw) rfl

theorem sameName_of_foldsAlike {v w : Option Json} (h : FoldsAlike Text.lower v w) :
    SameName (v.bind nameOf?) (w.bind nameOf?) := by
  rcases h with rfl | ⟨s, t, rfl, rfl, hlower⟩
  · exact sameName_refl
  · rw [Option.bind_some, Option.bind_some, nameOf?, nameOf?]
    by_cases hs : Text.trim s = ""
    · have ht : Text.trim t = "" := by
        rw [← Text.lower_eq_empty_iff, ← hlower, Text.lower_eq_empty_iff, hs]
      rw [if_pos hs, if_pos ht]
      exact .absent
    · have ht : ¬ Text.trim t = "" := by
        rw [← Text.lower_eq_empty_iff, ← hlower, Text.lower_eq_empty_iff]
        exact hs
      rw [if_neg hs, if_neg ht]
      exact .named (Text.trim_trim s) (Text.trim_trim t) hlower

theorem aggregationOf_of_foldsAlike {v w : Option Json} (h : FoldsAlike Text.lowerAscii v w) :
    aggregationOf v = aggregationOf w := by
  rcases h with rfl | ⟨s, t, rfl, rfl, hlower⟩
  · rfl
  · simp [aggregationOf, Json.text?, Aggregation.parse, hlower]

theorem sortOrderOf_of_foldsAlike {v w : Option Json} (h : FoldsAlike Text.lowerAscii v w) :
    sortOrderOf v = sortOrderOf w := by
  rcases h with rfl | ⟨s, t, rfl, rfl, hlower⟩
  · rfl
  · simp [sortOrderOf, Json.text?, SortOrder.parse, hlower]

/-- The word for a period is read in whatever way it is spelled. -/
theorem resolveWindow?_of_word {s : String} {period : Calendar.Period}
    (h : Calendar.Period.named.lookup (Text.lowerAscii (Text.trim s)) = some period)
    (today : Calendar.Date) :
    ((nameOf? (.text s)).bind fun token => Calendar.resolveWindow? token today) =
      period.window? today := by
  have hne : Text.trim s ≠ "" := by
    intro hempty
    have hnone : Calendar.Period.named.lookup (Text.lowerAscii "") = none := by decide +kernel
    rw [hempty, hnone] at h
    cases h
  rw [nameOf?, if_neg hne, Option.bind_some, Calendar.resolveWindow?, Calendar.Period.parse,
    Text.trim_trim, h]

theorem askAlike_of_respelled {a b : Json.Fields} (h : Respelled a b) :
    AskAlike (.ofJson (.object a)) (.ofJson (.object b)) where
  xAxis := sameName_of_foldsAlike (h.names _ (by decide))
  yAxis := sameName_of_foldsAlike (h.names _ (by decide))
  aggregation := aggregationOf_of_foldsAlike (h.words _ (by decide))
  filterColumn := sameName_of_foldsAlike (h.names _ (by decide))
  filterValue := congrArg (·.bind FilterValue.ofJson?) (h.values _ (by decide))
  sortBy := sameName_of_foldsAlike (h.names _ (by decide))
  sortOrder := sortOrderOf_of_foldsAlike (h.words _ (by decide))
  limit := congrArg (·.bind limitOf?) (h.values _ (by decide))
  window := fun today => by
    rcases h.period with hsame | ⟨s, t, hs, ht, hlower, hword⟩
    · exact congrArg (fun v => (v.bind nameOf?).bind fun token =>
        Calendar.resolveWindow? token today) hsame
    · obtain ⟨period, hperiod⟩ := Option.isSome_iff_exists.1 hword
      change (((a.get? "time_period").bind nameOf?).bind _) =
        (((b.get? "time_period").bind nameOf?).bind _)
      rw [hs, ht, Option.bind_some, Option.bind_some, resolveWindow?_of_word hperiod,
        resolveWindow?_of_word (hlower ▸ hperiod)]

namespace Service

/-- **A question asks the same however its names and words are spelled.** Two objects that spell one
question compile to one query, or both are refused, in whatever ledger, on whatever day and for
either shape of caller; and what they are answered with is the same, for analysis and for a chart. -/
theorem answers_of_respelled {a b : Json.Fields} (h : Respelled a b) (today : Calendar.Date) :
    (∀ (schema : Schema) (shape : Query.Shape),
      (Query.compile (.ofJson (.object a)) schema today shape).toOption =
        (Query.compile (.ofJson (.object b)) schema today shape).toOption) ∧
    ∀ (config : Config) (d : Disk) (t : Tenant),
      analysis config d today t (.ofJson (.object a)) =
          analysis config d today t (.ofJson (.object b)) ∧
        chart config d today t (.ofJson (.object a)) =
          chart config d today t (.ofJson (.object b)) :=
  have halike := askAlike_of_respelled h
  ⟨fun _ shape => Query.compile_of_alike halike today shape, fun config d t =>
    ⟨fetch_of_alike halike config d today t .lenient, chart_of_alike halike config d today t⟩⟩

/-- The same question loud and quiet. The loud one asks for the stock in a letter beyond ASCII. -/
def loud : Json.Fields :=
  Json.Fields.ofList [("x_axis", .text " ITEM "), ("y_axis", .text "Quantity_In_Stoc\u212a"),
    ("aggregation", .text "Sum "), ("filter_column", .text "Item"), ("filter_value", .text "Rice"),
    ("sort_by", .text "QUANTITY_IN_STOCK"), ("sort_order", .text " ASC"),
    ("time_period", .text "Last_Month ")]

def quiet : Json.Fields :=
  Json.Fields.ofList [("x_axis", .text "item"), ("y_axis", .text "quantity_in_stock"),
    ("aggregation", .text "sum"), ("filter_column", .text "item"), ("filter_value", .text "Rice"),
    ("sort_by", .text "quantity_in_stock"), ("sort_order", .text "asc"),
    ("time_period", .text "last_month")]

theorem answers_of_respelled_loud : Respelled loud quiet ∧
    chart History.shop oilThenRice marketDay History.vendor (.ofJson (.object loud)) =
      chart History.shop oilThenRice marketDay History.vendor (.ofJson (.object quiet)) := by
  have hspelled : Respelled loud quiet := {
    names := by
      simp only [List.forall_mem_cons, List.not_mem_nil, false_implies, implies_true, and_true]
      exact ⟨.inr ⟨_, _, rfl, rfl, by decide +kernel⟩, .inr ⟨_, _, rfl, rfl, by decide +kernel⟩,
        .inr ⟨_, _, rfl, rfl, by decide +kernel⟩, .inr ⟨_, _, rfl, rfl, by decide +kernel⟩⟩
    words := by
      simp only [List.forall_mem_cons, List.not_mem_nil, false_implies, implies_true, and_true]
      exact ⟨.inr ⟨_, _, rfl, rfl, by decide +kernel⟩, .inr ⟨_, _, rfl, rfl, by decide +kernel⟩⟩
    period := .inr ⟨_, _, rfl, rfl, by decide +kernel, by decide +kernel⟩
    values := by
      simp only [List.forall_mem_cons, List.not_mem_nil, false_implies, implies_true, and_true]
      exact ⟨rfl, rfl⟩ }
  exact ⟨hspelled,
    ((answers_of_respelled hspelled marketDay).2 History.shop oilThenRice History.vendor).2⟩

end Service

end SalesLedger
