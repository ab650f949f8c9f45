import SalesLedger.Proofs.Rereading
import SalesLedger.Query.Compile

/-!
# Compiled queries are sealed

A statement that `Query.compile` makes has a text of its own: nothing that a caller or a ledger
names can add a token to it. `compile_sealed` states it for every schema, parameter set, day and
shape of caller.

* `IsKeyed names t`: the tokens that may stand behind the SELECT; a name is one of `names`, and the
  only text is the format of a year. `Select.isKeyed_tokens` proves it of every query that can be
  read back, with the names that the query has.
* `compiled_names`: what a compiled query names are resolved columns and the fixed names;
  `compiled_columnNames` tells which of them stand for columns, and when.
* `Select.lexemes_congr`: the text depends on no bound value.
-/

namespace SalesLedger

namespace Sql

open Lexeme (tokens blank)

/-! ## The tokens of a statement -/

/-- The keywords that stand behind a SELECT. -/
def keywords : List String :=
  ["SUM", "AVG", "COUNT", "AS", "FROM", "WHERE", "BETWEEN", "AND", "strftime", "GROUP", "BY",
    "ORDER", "ASC", "DESC", "LIMIT"]

/-- A token that is no more than a statement with these names needs behind its SELECT. -/
def IsKeyed (names : List String) : Token → Prop
  | .word w => w ∈ keywords
  | .name n => n ∈ names
  | .literal s => s = "%Y"
  | .symbol _ | .placeholder => True
  | .number _ | .bytes _ | .comment | .semicolon | .unknown => False

/-- The names that a column of an answer has. -/
def Output.names (o : Output) : List String := o.selection.term.columns ++ o.name?.toList

/-- The names that a query has. -/
def Select.names (s : Select) : List String :=
  (s.outputs.getD []).flatMap Output.names ++ s.table :: (s.conditions.map Condition.column ++
    (s.groupBy.toList ++ (s.orderBy.map Prod.fst).toList))

/-- The names of what is selected. -/
def Select.selectedNames (s : Select) : List String := (s.outputs.getD []).flatMap Output.names

/-- The names of what restricts, groups and orders. -/
def Select.restrictingNames (s : Select) : List String :=
  s.conditions.map Condition.column ++ (s.groupBy.toList ++ (s.orderBy.map Prod.fst).toList)

/-- The names that stand for columns, of the table or of the answer. -/
def Select.columnNames (s : Select) : List String := s.selectedNames ++ s.restrictingNames

theorem Select.mem_names {s : Select} {n : String} :
    n ∈ s.names ↔ n = s.table ∨ n ∈ s.columnNames := by
  show n ∈ s.selectedNames ++ s.table :: s.restrictingNames ↔ _
  rw [columnNames, List.mem_append, List.mem_cons, List.mem_append, or_left_comm]

section IsKeyed

variable {names : List String}

@[simp] theorem isKeyed_word {w : String} : IsKeyed names (.word w) ↔ w ∈ keywords := Iff.rfl

@[simp] theorem isKeyed_name {n : String} : IsKeyed names (.name n) ↔ n ∈ names := Iff.rfl

@[simp] theorem isKeyed_literal {s : String} : IsKeyed names (.literal s) ↔ s = "%Y" := Iff.rfl

@[simp] theorem isKeyed_symbol {c : Char} : IsKeyed names (.symbol c) := trivial

@[simp] theorem isKeyed_placeholder : IsKeyed names .placeholder := trivial

theorem isKeyed_separated {separator : List Lexeme} {rows : List (List Lexeme)}
    (hs : ∀ t ∈ tokens separator, IsKeyed names t)
    (h : ∀ ls ∈ rows, ∀ t ∈ tokens ls, IsKeyed names t) :
    ∀ t ∈ tokens (separated separator rows), IsKeyed names t := by
  induction rows with
  | nil => intro t ht; cases ht
  | cons ls rows ih =>
    have hls := h ls (by simp)
    have hrows := ih fun ls hls => h ls (List.mem_cons_of_mem _ hls)
    cases rows with
    | nil => exact hls
    | cons more rows =>
      rw [Lexeme.tokens_separated, List.forall_mem_append, List.forall_mem_append]
      exact ⟨⟨hls, hs⟩, hrows⟩

theorem Term.isKeyed_tokens {t : Term} (h : t.IsReadable) (hn : ∀ c ∈ t.columns, c ∈ names) :
    ∀ u ∈ tokens t.lexemes, IsKeyed names u := by
  match t, h with
  | .column c, _ =>
    have hc := hn c (by simp [Term.columns])
    simpa [Term.lexemes] using hc
  | .product (.column a) (.column b), _ =>
    have ha := hn a (by simp [Term.columns])
    have hb := hn b (by simp [Term.columns])
    simpa [Term.lexemes] using ⟨ha, hb⟩

theorem Output.isKeyed_tokens {o : Output} (h : o.selection.IsReadable)
    (hn : ∀ c ∈ o.names, c ∈ names) : ∀ u ∈ tokens o.lexemes, IsKeyed names u := by
  obtain ⟨s, name?⟩ := o
  have hterm : ∀ c ∈ s.term.columns, c ∈ names := fun c hc => hn c (List.mem_append_left _ hc)
  have hselection : ∀ u ∈ tokens s.lexemes, IsKeyed names u := by
    cases s with
    | plain t => exact t.isKeyed_tokens h hterm
    | aggregate a t =>
      obtain ⟨ha, ht⟩ := h
      have hkeyword : a.keyword ∈ keywords := by cases a <;> simp [Aggregate.keyword, keywords]
      have hinner := t.isKeyed_tokens ht hterm
      rw [Selection.lexemes, Aggregate.lexemes, if_neg ha, List.append_nil, Lexeme.tokens_append,
        Lexeme.tokens_append, List.forall_mem_append, List.forall_mem_append]
      exact ⟨⟨by simpa using hkeyword, hinner⟩, by simp⟩
    | aggregateOrZero a t => exact h.elim
  rw [Output.lexemes, Lexeme.tokens_append, List.forall_mem_append]
  refine ⟨hselection, ?_⟩
  cases name? with
  | none => simp
  | some n =>
    have hname := hn n (by simp [Output.names])
    simpa [keywords] using hname

theorem Condition.isKeyed_tokens {c : Condition} (hn : c.column ∈ names) :
    ∀ u ∈ tokens c.lexemes, IsKeyed names u := by
  cases c <;> simpa [Condition.lexemes, Condition.column, Lexeme.literal, keywords] using hn

namespace Select

variable {s : Select}

theorem isKeyed_outputTokens (h : s.IsReadable)
    (hn : ∀ n ∈ (s.outputs.getD []).flatMap Output.names, n ∈ names) :
    ∀ u ∈ tokens s.outputLexemes, IsKeyed names u := by
  unfold outputLexemes
  cases hs : s.outputs with
  | none => simp
  | some outputs =>
    rw [hs, Option.getD_some] at hn
    refine isKeyed_separated (by simp) fun ls hls => ?_
    obtain ⟨o, ho, rfl⟩ := List.mem_map.1 hls
    exact o.isKeyed_tokens ((h outputs hs).2 o ho) fun c hc =>
      hn c (List.mem_flatMap.2 ⟨o, ho, hc⟩)

theorem isKeyed_conditionTokens (hn : ∀ n ∈ s.conditions.map Condition.column, n ∈ names) :
    ∀ u ∈ tokens s.conditionLexemes, IsKeyed names u := by
  unfold conditionLexemes
  split
  · simp
  · rw [Lexeme.tokens_append, List.forall_mem_append]
    refine ⟨by simp [keywords], isKeyed_separated (by simp [keywords]) fun ls hls => ?_⟩
    obtain ⟨c, hc, rfl⟩ := List.mem_map.1 hls
    exact c.isKeyed_tokens (hn _ (List.mem_map_of_mem hc))

theorem isKeyed_groupTokens (hn : ∀ n ∈ s.groupBy.toList, n ∈ names) :
    ∀ u ∈ tokens s.groupLexemes, IsKeyed names u := by
  unfold groupLexemes
  cases hs : s.groupBy with
  | none => simp
  | some c =>
    have hc := hn c (by simp [hs])
    simpa [keywords] using hc

theorem isKeyed_orderTokens (hn : ∀ n ∈ (s.orderBy.map Prod.fst).toList, n ∈ names) :
    ∀ u ∈ tokens s.orderLexemes, IsKeyed names u := by
  unfold orderLexemes
  cases hs : s.orderBy with
  | none => simp
  | some o =>
    obtain ⟨c, order⟩ := o
    have hc := hn c (by simp [hs])
    cases order <;> simpa [SortOrder.keyword, keywords] using hc

theorem isKeyed_limitTokens : ∀ u ∈ tokens s.limitLexemes, IsKeyed names u := by
  unfold limitLexemes
  cases s.limit <;> simp [keywords]

/-- **Behind its SELECT a query has nothing but keywords, marks and its own names.** -/
theorem isKeyed_tokens (h : s.IsReadable) (hn : ∀ n ∈ s.names, n ∈ names) :
    ∃ rest, tokens s.lexemes = .word "SELECT" :: rest ∧ ∀ u ∈ rest, IsKeyed names u := by
  simp only [Select.names, List.forall_mem_append, List.forall_mem_cons] at hn
  obtain ⟨houtputs, htable, hconditions, hgroup, horder⟩ := hn
  refine ⟨_, s.tokens_lexemes, ?_⟩
  simp only [List.forall_mem_append, List.forall_mem_cons]
  exact ⟨isKeyed_outputTokens h houtputs, by simp [keywords], htable,
    isKeyed_conditionTokens hconditions, isKeyed_groupTokens hgroup, isKeyed_orderTokens horder,
    isKeyed_limitTokens⟩

/-- **The text of a query depends on no value** that is bound to it. -/
theorem lexemes_congr {s' : Select} (houtputs : s.outputs = s'.outputs)
    (htable : s.table = s'.table)
    (hconditions : s.conditions.map Condition.lexemes = s'.conditions.map Condition.lexemes)
    (hgroup : s.groupBy = s'.groupBy) (horder : s.orderBy = s'.orderBy)
    (hlimit : s.limit.isSome = s'.limit.isSome) : s.lexemes = s'.lexemes := by
  have hempty : s.conditions.isEmpty = s'.conditions.isEmpty := by
    rw [← List.isEmpty_map (f := Condition.lexemes), hconditions, List.isEmpty_map]
  have hlimits : s.limitLexemes = s'.limitLexemes := by
    unfold limitLexemes
    cases h : s.limit <;> cases h' : s'.limit <;> simp [h, h'] at hlimit ⊢
  simp only [lexemes, outputLexemes, conditionLexemes, groupLexemes, orderLexemes, houtputs, htable,
    hconditions, hempty, hgroup, horder, hlimits]

end Select

end IsKeyed

end Sql

namespace Query

open Sql

/-! ## What compiled queries name -/

/-- The names that a statement may have whatever the columns of the ledger are. -/
def fixedNames : List String := [Ledger.table, priceColumn, soldColumn, dateColumn, totalSales]

section Names

variable (p : ParameterSet) (schema : Schema)

/-- What a caller asks for by the name of a column. -/
def requestedNames : List String :=
  p.xAxis.toList ++ (p.yAxis.toList ++ (p.filterColumn.toList ++ p.sortBy.toList))

/-- The columns that are found for them. -/
def resolvedNames : List String := (requestedNames p).filterMap schema.resolve?

/-- The names that a compiled query may have. -/
def allowedNames : List String := fixedNames ++ resolvedNames p schema

variable {p schema}

theorem mem_columns_of_mem_resolvedNames {n : String} (h : n ∈ resolvedNames p schema) :
    n ∈ schema.columns := by
  obtain ⟨_, -, hr⟩ := List.mem_filterMap.1 h
  exact Schema.mem_of_resolve? hr

theorem mem_resolvedNames {name n : String} (hn : name ∈ requestedNames p)
    (h : schema.resolve? name = some n) : n ∈ resolvedNames p schema :=
  List.mem_filterMap.2 ⟨name, hn, h⟩

theorem category?_mem {x : String} (h : category? p schema = some x) :
    x ∈ resolvedNames p schema := by
  obtain ⟨name, hname, hr⟩ := Option.bind_eq_some_iff.1 h
  exact mem_resolvedNames (by simp [requestedNames, hname]) hr

theorem measure?_mem {y : String} (h : measure? p schema = some (.column y)) :
    y ∈ resolvedNames p schema := by
  obtain ⟨name, hname, hy⟩ := Option.bind_eq_some_iff.1 h
  split at hy
  · cases hy
  · rename_i hcolumn
    obtain ⟨c, hc, hy⟩ := Option.map_eq_some_iff.1 hy
    rw [column?, hname, Option.bind_some, if_neg hcolumn] at hc
    split at hy
    · cases hy
    · obtain rfl := Measure.column.inj hy
      exact mem_resolvedNames (by simp [requestedNames, hname]) hc

variable (p schema) in
/-- A column that is found, or the revenue under its own name where it is measured. -/
def IsRowName (n : String) : Prop :=
  n ∈ resolvedNames p schema ∨ (n = totalSales ∧ measure? p schema = some .revenue)

/-- The measure of a query is a column with a name of its own, or the revenue. -/
theorem measureName?_mem {n : String}
    (h : measureName? (measure? p schema) (category? p schema) = some n) :
    IsRowName p schema n := by
  unfold measureName? at h
  split at h
  · rename_i hm
    obtain rfl := Option.some.inj h
    exact .inr ⟨rfl, hm⟩
  · rename_i y _ hm _
    obtain rfl := Option.some.inj h
    exact .inl (measure?_mem hm)
  · cases h

theorem orderName?_mem {n : String}
    (h : orderName? p schema (measure? p schema)
      (measureName? (measure? p schema) (category? p schema)) = some n) :
    IsRowName p schema n := by
  obtain ⟨requested, hrequested, hn⟩ := Option.bind_eq_some_iff.1 h
  split at hn
  · split at hn
    · rename_i hm
      obtain rfl := Option.some.inj hn
      exact .inr ⟨rfl, hm⟩
    · cases hn
  · obtain ⟨c, hc, hn⟩ := Option.map_eq_some_iff.1 hn
    have hcolumn := mem_resolvedNames (p := p) (by simp [requestedNames, hrequested]) hc
    split at hn
    · rename_i y name hy hname
      split at hn
      · obtain rfl := hn
        exact measureName?_mem hname
      · exact .inl (hn ▸ hcolumn)
    · exact .inl (hn ▸ hcolumn)

theorem orderTarget?_mem {shape : Shape} {n : String} (h : orderTarget? p schema shape = some n) :
    IsRowName p schema n := by
  unfold orderTarget? at h
  cases shape with
  | lenient => exact orderName?_mem h
  | strict =>
    rcases Option.or_eq_some_iff.1 h with h | ⟨-, h⟩
    · exact orderName?_mem h
    · exact measureName?_mem h

variable (p schema) in
/-- The columns that a query names without looking them up: the two that the revenue is made of, and
the date that a window restricts. -/
def fixedColumns (today : Calendar.Date) : List String :=
  (if measure? p schema = some .revenue then [priceColumn, soldColumn] else []) ++
    ((p.timePeriod.bind fun token => Calendar.resolveWindow? token today).map
      fun _ => dateColumn).toList

theorem outputs?_names {n : String} {outputs : List Output} {today : Calendar.Date}
    (h : outputs? p (measure? p schema) (category? p schema) = some outputs)
    (hn : n ∈ outputs.flatMap Output.names) :
    n ∈ fixedColumns p schema today ∨ IsRowName p schema n := by
  unfold outputs? at h
  split at h
  · rename_i hm
    obtain rfl := Option.some.inj h
    rw [List.flatMap_append, List.mem_append] at hn
    rcases hn with hn | hn
    · cases hx : category? p schema with
      | none => simp [hx] at hn
      | some x =>
        obtain rfl : n = x := by
          simpa [hx, plainOutput, Output.names, Selection.term, Term.columns] using hn
        exact .inr (.inl (category?_mem hx))
    · simp only [Output.names, revenueOutput, Selection.term, Term.columns, List.flatMap_cons,
        List.flatMap_nil, List.append_nil, List.mem_append, List.mem_singleton,
        Option.toList_some] at hn
      rcases hn with (rfl | rfl) | rfl
      · exact .inl (by simp [fixedColumns, hm])
      · exact .inl (by simp [fixedColumns, hm])
      · exact .inr (.inr ⟨rfl, hm⟩)
  · rename_i y x hm hx
    have hxy : n = x ∨ n = y := by
      split at h <;> obtain rfl := Option.some.inj h <;>
        simpa [plainOutput, Output.names, Selection.term, Term.columns] using hn
    rcases hxy with rfl | rfl
    · exact .inr (.inl (category?_mem hx))
    · exact .inr (.inl (measure?_mem hm))
  · cases h

theorem groupBy?_mem {n : String}
    (h : groupBy? p (measure? p schema) (category? p schema) = some n) :
    n ∈ resolvedNames p schema := by
  unfold groupBy? at h
  split at h
  · exact category?_mem h
  · rename_i y x hm hx
    obtain ⟨_, -, rfl⟩ := Option.map_eq_some_iff.1 h
    exact category?_mem hx
  · cases h

theorem conditions_names {today : Calendar.Date} {c : Condition}
    (h : c ∈ conditions p schema today) :
    c.column ∈ fixedColumns p schema today ∨ c.column ∈ resolvedNames p schema := by
  rcases List.mem_append.1 h with h | h
  · rw [Option.mem_toList, Option.map_eq_some_iff] at h
    obtain ⟨w, hw, rfl⟩ := h
    left
    cases w <;> simp [windowCondition, Condition.column, fixedColumns, hw]
  · rw [Option.mem_toList] at h
    unfold filterCondition? at h
    split at h
    · rename_i column value hcolumn _
      obtain ⟨name, hname, hr⟩ := Option.bind_eq_some_iff.1 hcolumn
      obtain rfl := Option.some.inj h
      exact .inr (mem_resolvedNames (by simp [requestedNames, hname]) hr)
    · cases h

/-- **What the names of a compiled query's columns are**: the fixed columns, the columns that are
found, and the revenue where it is measured. -/
theorem compiled_columnNames (today : Calendar.Date) (shape : Shape) :
    ∀ n ∈ (compiled p schema today shape).select.columnNames,
      n ∈ fixedColumns p schema today ∨ IsRowName p schema n := by
  intro n hn
  simp only [Select.columnNames, Select.selectedNames, Select.restrictingNames, compiled,
    List.mem_append] at hn
  rcases hn with hn | hn | hn | hn
  · cases ho : outputs? p (measure? p schema) (category? p schema) with
    | none => simp [ho] at hn
    | some outputs => exact outputs?_names ho (by simpa [ho] using hn)
  · obtain ⟨c, hc, rfl⟩ := List.mem_map.1 hn
    exact (conditions_names hc).imp_right .inl
  · exact .inr (.inl (groupBy?_mem (by simpa using hn)))
  · exact .inr (orderTarget?_mem (by simpa [Function.comp_def] using hn))

theorem mem_fixedNames_of_mem_fixedColumns {today : Calendar.Date} {n : String}
    (h : n ∈ fixedColumns p schema today) : n ∈ fixedNames := by
  rcases List.mem_append.1 h with h | h
  · split at h
    · rcases List.mem_cons.1 h with rfl | h
      · simp [fixedNames]
      · obtain rfl := List.mem_singleton.1 h
        simp [fixedNames]
    · cases h
  · obtain ⟨_, -, rfl⟩ := Option.map_eq_some_iff.1 (Option.mem_toList.1 h)
    simp [fixedNames]

/-- **A compiled query names resolved columns and the fixed names only.** -/
theorem compiled_names (today : Calendar.Date) (shape : Shape) :
    ∀ n ∈ (compiled p schema today shape).select.names, n ∈ allowedNames p schema := by
  intro n hn
  refine List.mem_append.2 ?_
  rcases Select.mem_names.1 hn with rfl | hn
  · exact .inl (by simp [compiled, fixedNames])
  rcases compiled_columnNames today shape n hn with hfixed | hfound | ⟨rfl, -⟩
  · exact .inl (mem_fixedNames_of_mem_fixedColumns hfixed)
  · exact .inr hfound
  · exact .inl (by simp [fixedNames])

variable (p schema) in
/-- **What a compiled query selects can be read back.** -/
theorem compiled_isReadable (today : Calendar.Date) (shape : Shape) :
    (compiled p schema today shape).select.IsReadable := by
  intro outputs h
  have hrevenue : revenueOutput.selection.IsReadable := ⟨by simp, trivial⟩
  simp only [compiled] at h
  unfold outputs? at h
  split at h
  · obtain rfl := Option.some.inj h
    refine ⟨by simp, fun o ho => ?_⟩
    rcases List.mem_append.1 ho with ho | ho
    · rw [Option.mem_toList, Option.map_eq_some_iff] at ho
      obtain ⟨x, -, rfl⟩ := ho
      trivial
    · obtain rfl := List.mem_singleton.1 ho
      exact hrevenue
  · split at h <;> obtain rfl := Option.some.inj h
    · rename_i a ha
      have hdistinct : a ≠ .countDistinct := by
        unfold aggregateOf at ha
        rintro rfl
        split at ha <;> simp at ha
      refine ⟨by simp, fun o ho => ?_⟩
      obtain rfl | rfl : o = plainOutput _ ∨ o = _ := by simpa using ho
      · trivial
      · exact ⟨hdistinct, trivial⟩
    · refine ⟨by simp, fun o ho => ?_⟩
      obtain rfl | rfl : o = plainOutput _ ∨ o = plainOutput _ := by simpa using ho
      · trivial
      · trivial
  · cases h

end Names

/-! ## Values -/

/-- The values of a window, in the order in which it compares with them. -/
def windowValues : Calendar.Window → List Cell
  | .between start stop => [.text start.text, .text stop.text]
  | .year y => [.text (toString y)]

/-- The values that a compiled query binds: the window's bounds, the filter's value, the cap. -/
def boundValues (p : ParameterSet) (schema : Schema) (today : Calendar.Date) (shape : Shape) :
    List Cell :=
  ((p.timePeriod.bind fun token => Calendar.resolveWindow? token today).map windowValues).getD [] ++
    ((p.filterColumn.bind schema.resolve?).bind fun _ => p.filterValue.map cellOf).toList ++
    ((rowLimit? p shape).map Select.boundLimit).toList

/-- Whether a period is asked for as a range of two dates. -/
def IsRange (period : Option String) : Prop :=
  ∃ token start stop, period = some token ∧ Calendar.Period.parse token = .ok (.range start stop)

/-- A set with other values at the places where its values are bound. -/
def withValues (p : ParameterSet) (value : Option FilterValue) (limit : Option Nat)
    (period : Option String) : ParameterSet :=
  { p with filterValue := value, limit := limit, timePeriod := period }

section Values

variable {p : ParameterSet} {schema : Schema} {today : Calendar.Date}

theorem flatMap_bound_conditions : (conditions p schema today).flatMap Condition.bound =
    ((p.timePeriod.bind fun token => Calendar.resolveWindow? token today).map windowValues).getD []
      ++ ((p.filterColumn.bind schema.resolve?).bind fun _ => p.filterValue.map cellOf).toList := by
  unfold conditions filterCondition?
  rw [List.flatMap_append]
  congr 1
  · cases p.timePeriod.bind fun token => Calendar.resolveWindow? token today with
    | none => rfl
    | some w => cases w <;> rfl
  · cases p.filterColumn.bind schema.resolve? <;> cases p.filterValue <;> rfl

/-- **What is bound**, in the order of the question marks. -/
theorem compiled_bound (shape : Shape) :
    (compiled p schema today shape).bound = boundValues p schema today shape := by
  have houtputs := Statement.bound_outputs (compiled_isReadable p schema today shape)
  unfold Compiled.bound Select.bound
  rw [houtputs, List.nil_append]
  exact congrArg (· ++ _) flatMap_bound_conditions

/-- A range of two dates always restricts, with a condition of one text. -/
theorem lexemes_windowCondition_of_isRange {period : Option String} (h : IsRange period) :
    ((period.bind fun token => Calendar.resolveWindow? token today).map windowCondition).toList.map
      Condition.lexemes = [(windowCondition (.between today today)).lexemes] := by
  obtain ⟨token, start, stop, rfl, hparse⟩ := h
  simp only [Option.bind_some, Calendar.resolveWindow?, hparse, Calendar.Period.window?]
  rfl

theorem lexemes_conditions_withValues {value : Option FilterValue} {limit : Option Nat}
    {period : Option String} (hv : value.isSome = p.filterValue.isSome)
    (hp : period = p.timePeriod ∨ IsRange period ∧ IsRange p.timePeriod) :
    (conditions (withValues p value limit period) schema today).map Condition.lexemes =
      (conditions p schema today).map Condition.lexemes := by
  unfold conditions
  rw [List.map_append, List.map_append]
  congr 1
  · rcases hp with rfl | ⟨hnew, hold⟩
    · rfl
    · exact (lexemes_windowCondition_of_isRange hnew).trans
        (lexemes_windowCondition_of_isRange hold).symm
  · simp only [filterCondition?, withValues]
    cases p.filterColumn.bind schema.resolve? with
    | none => rfl
    | some c =>
      cases value with
      | none =>
        rw [Option.isSome_none, eq_comm, Option.isSome_eq_false_iff,
          Option.isNone_iff_eq_none] at hv
        rw [hv]
      | some v =>
        obtain ⟨v', hv'⟩ := Option.isSome_iff_exists.1 hv.symm
        rw [hv']
        rfl

theorem isSome_rowLimit? {limit : Option Nat} (hl : limit.isSome = p.limit.isSome)
    (value : Option FilterValue) (period : Option String) (shape : Shape) :
    (rowLimit? (withValues p value limit period) shape).isSome = (rowLimit? p shape).isSome := by
  cases shape with
  | strict => rfl
  | lenient => exact hl

end Values

/-! ## Sealed statements -/

/-- What the text of a compiled query promises, read by the rules of the engine. -/
structure IsSealed (p : ParameterSet) (schema : Schema) (today : Calendar.Date) (shape : Shape)
    (q : Compiled) : Prop where
  /-- One SELECT; behind it no other, no comment, no semicolon, no text but a format, and no name
  but an allowed one. -/
  keyed : ∃ rest, Token.ofText q.sql = .word "SELECT" :: rest ∧
    ∀ t ∈ rest, IsKeyed (allowedNames p schema) t
  /-- What is allowed besides the fixed names is a column. -/
  columns : ∀ n ∈ resolvedNames p schema, n ∈ schema.columns
  /-- Every value has a question mark. -/
  marks : (Token.ofText q.sql).count .placeholder = q.bound.length
  /-- The bounds of the window come first, then the filter's value, then the cap. -/
  bound : q.bound = boundValues p schema today shape
  /-- The tokens are a statement with nothing before or behind it, and each value stands at the mark
  of its condition, or at that of the cap. -/
  reads : Statement.read (Token.ofText q.sql) q.bound = some q.select.settled
  conditions : q.select.conditions = conditions p schema today

/-- **Compiled queries are sealed**, and other values at the places of those that are bound leave
their text as it is. -/
theorem compile_sealed {p : ParameterSet} {schema : Schema} {today : Calendar.Date} {shape : Shape}
    {q : Compiled} (h : compile p schema today shape = .ok q) :
    IsSealed p schema today shape q ∧
      ∀ value limit period, value.isSome = p.filterValue.isSome → limit.isSome = p.limit.isSome →
        (period = p.timePeriod ∨ IsRange period ∧ IsRange p.timePeriod) →
        ∃ q', compile (withValues p value limit period) schema today shape = .ok q' ∧
          q'.sql = q.sql := by
  obtain ⟨haccepted, rfl⟩ := compile_ok h
  have hread := compiled_isReadable p schema today shape
  have htokens : Token.ofText (compiled p schema today shape).sql =
      Lexeme.tokens (compiled p schema today shape).select.lexemes :=
    Select.ofText_sql (compiled p schema today shape).select
  refine ⟨⟨?_, fun n hn => mem_columns_of_mem_resolvedNames hn, ?_, compiled_bound shape, ?_, rfl⟩,
    fun value limit period hv hl hp => ?_⟩
  · rw [htokens]
    exact Select.isKeyed_tokens hread (compiled_names today shape)
  · rw [htokens, Lexeme.count_tokens]
    exact Select.count_placeholder _
  · rw [htokens]
    exact Statement.read_tokens hread
  · refine ⟨compiled (withValues p value limit period) schema today shape, ?_, ?_⟩
    · have haccepted' : isRefused (withValues p value limit period) schema shape = false :=
        haccepted
      rw [compile, if_neg (by rw [haccepted']; exact Bool.false_ne_true)]
    · exact congrArg Lexeme.text (Select.lexemes_congr rfl rfl
        (lexemes_conditions_withValues hv hp) rfl rfl (isSome_rowLimit? hl value period shape))

/-- Columns whose names hold quotes, a question mark, a semicolon and the mark of a comment. -/
def hostileSchema : Schema := ⟨["a\"b?", "c;--", "it'em"]⟩

/-- A set that asks for them, with a value that would be a condition of its own. -/
def hostile : ParameterSet where
  xAxis := some "a\"b?"
  yAxis := some "c;--"
  aggregation := .count
  filterColumn := some "it'em"
  filterValue := some (.text "x' OR '1'='1")
  sortBy := none
  sortOrder := .descending
  limit := some 3
  timePeriod := some "2025-01-01 to 2025-01-31"

theorem isRange_january : IsRange hostile.timePeriod :=
  ⟨_, ⟨2025, 1, 1, by decide⟩, ⟨2025, 1, 31, by decide⟩, rfl, rfl⟩

theorem isRange_february : IsRange (some "2024-02-01 to 2024-02-29") :=
  ⟨_, ⟨2024, 2, 1, by decide⟩, ⟨2024, 2, 29, by decide⟩, rfl, rfl⟩

theorem compile_hostile_sealed : ∃ q q',
    compile hostile hostileSchema ⟨2025, 2, 20, by decide⟩ .strict = .ok q ∧
      q.sql = "SELECT \"a\"\"b?\", COUNT(\"c;--\") AS \"c;--\" FROM \"sales\" " ++
        "WHERE \"sale_date\" BETWEEN ? AND ? AND \"it'em\" = ? " ++
        "GROUP BY \"a\"\"b?\" ORDER BY \"c;--\" DESC LIMIT ?" ∧
      IsSealed hostile hostileSchema ⟨2025, 2, 20, by decide⟩ .strict q ∧
      compile (withValues hostile (some (.integer 7)) (some 99) (some "2024-02-01 to 2024-02-29"))
        hostileSchema ⟨2025, 2, 20, by decide⟩ .strict = .ok q' ∧ q'.sql = q.sql := by
  have hq : compile hostile hostileSchema ⟨2025, 2, 20, by decide⟩ .strict =
      .ok (compiled hostile hostileSchema ⟨2025, 2, 20, by decide⟩ .strict) :=
    if_neg (by decide +kernel)
  obtain ⟨hsealed, hvalues⟩ := compile_sealed hq
  obtain ⟨q', hq', hsql⟩ := hvalues (some (.integer 7)) (some 99)
    (some "2024-02-01 to 2024-02-29") rfl rfl (.inr ⟨isRange_february, isRange_january⟩)
  exact ⟨_, q', hq, by decide +kernel, hsealed, hq', hsql⟩

end Query

end SalesLedger
