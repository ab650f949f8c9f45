import SalesLedger.Proofs.Injection

/-!
# The columns that a statement names

`Select.names_tokens`: the names in quotes that the text of a query holds are those of its clauses,
in their order. Every other token of it is a keyword or a mark.

A name that a caller asks for is looked up, so it is a column of the ledger where it is named at
all. Three columns are written without being looked up: the two that the revenue is made of, and the
date that a window restricts. `compile_columns` states how far a statement of any ledger can be
trusted to name columns that the ledger has: exactly as far as it has those of the three that the
statement needs.
-/

namespace SalesLedger

namespace Sql

open Lexeme (tokens)

/-! ## The names in a text -/

/-- The name that a token is. -/
def Token.name? : Token → Option String
  | .name n => some n
  | _ => none

/-- The names in a row of tokens. -/
def Token.names (ts : List Token) : List String := ts.filterMap Token.name?

section Names

@[simp] theorem Token.names_nil : Token.names [] = [] := rfl

@[simp] theorem Token.names_append (ts more : List Token) :
    Token.names (ts ++ more) = Token.names ts ++ Token.names more :=
  List.filterMap_append

@[simp] theorem Token.names_name (n : String) (ts : List Token) :
    Token.names (.name n :: ts) = n :: Token.names ts := rfl

@[simp] theorem Token.names_word (w : String) (ts : List Token) :
    Token.names (.word w :: ts) = Token.names ts := rfl

@[simp] theorem Token.names_symbol (c : Char) (ts : List Token) :
    Token.names (.symbol c :: ts) = Token.names ts := rfl

@[simp] theorem Token.names_literal (s : String) (ts : List Token) :
    Token.names (.literal s :: ts) = Token.names ts := rfl

@[simp] theorem Token.names_number (s : String) (ts : List Token) :
    Token.names (.number s :: ts) = Token.names ts := rfl

@[simp] theorem Token.names_placeholder (ts : List Token) :
    Token.names (.placeholder :: ts) = Token.names ts := rfl

/-- A separator without names adds none. -/
theorem names_separated {α : Type} {separator : List Lexeme}
    (hs : Token.names (tokens separator) = []) {f : α → List Lexeme} {names : α → List String}
    (h : ∀ x, Token.names (tokens (f x)) = names x) (xs : List α) :
    Token.names (tokens (separated separator (xs.map f))) = xs.flatMap names := by
  induction xs with
  | nil => rfl
  | cons x xs ih =>
    cases xs with
    | nil => simpa [separated] using h x
    | cons y ys =>
      rw [List.map_cons, List.map_cons, Lexeme.tokens_separated, Token.names_append,
        Token.names_append, h, hs, List.append_nil, List.flatMap_cons, ← ih, List.map_cons]

theorem Term.names_tokens (t : Term) : Token.names (tokens t.lexemes) = t.columns := by
  induction t with
  | column c => rfl
  | monthOf c => rfl
  | product a b iha ihb => simp [lexemes, columns, iha, ihb]
  | whenAtMost c value t ih => simp [lexemes, columns, ih]

theorem Aggregate.names_tokens (a : Aggregate) (t : Term) :
    Token.names (tokens (a.lexemes t)) = t.columns := by
  cases a <;> simp [Aggregate.lexemes, t.names_tokens]

theorem Selection.names_tokens (s : Selection) :
    Token.names (tokens s.lexemes) = s.term.columns := by
  cases s with
  | plain t => exact t.names_tokens
  | aggregate a t => exact a.names_tokens t
  | aggregateOrZero a t => simp [lexemes, term, a.names_tokens t]

theorem Output.names_tokens (o : Output) : Token.names (tokens o.lexemes) = o.names := by
  obtain ⟨s, name?⟩ := o
  cases name? <;> simp [Output.lexemes, Output.names, s.names_tokens]

theorem Condition.names_tokens (c : Condition) : Token.names (tokens c.lexemes) = [c.column] := by
  cases c <;> rfl

namespace Select

variable (s : Select)

theorem names_outputTokens :
    Token.names (tokens s.outputLexemes) = (s.outputs.getD []).flatMap Output.names := by
  unfold outputLexemes
  cases s.outputs with
  | none => rfl
  | some outputs => exact names_separated rfl Output.names_tokens outputs

theorem names_conditionTokens :
    Token.names (tokens s.conditionLexemes) = s.conditions.map Condition.column := by
  unfold conditionLexemes
  split
  · rename_i hempty
    rw [List.isEmpty_iff.1 hempty]
    rfl
  · rw [Lexeme.tokens_append, Token.names_append, names_separated rfl Condition.names_tokens]
    exact (List.map_eq_flatMap ..).symm

theorem names_groupTokens : Token.names (tokens s.groupLexemes) = s.groupBy.toList := by
  unfold groupLexemes
  cases s.groupBy <;> rfl

theorem names_orderTokens :
    Token.names (tokens s.orderLexemes) = (s.orderBy.map Prod.fst).toList := by
  unfold orderLexemes
  cases s.orderBy <;> rfl

theorem names_limitTokens : Token.names (tokens s.limitLexemes) = [] := by
  unfold limitLexemes
  cases s.limit <;> rfl

/-- **The names in the text of a query are those of its clauses**, in their order. -/
theorem names_tokens : Token.names (tokens s.lexemes) = s.names := by
  rw [s.tokens_lexemes]
  simp only [Token.names_append, Token.names_word, Token.names_name, names_outputTokens,
    names_conditionTokens, names_groupTokens, names_orderTokens, names_limitTokens, List.append_nil,
    Select.names]

/-- Whether a query gives a column of its answer a name. -/
def Produces (n : String) : Prop := ∃ o ∈ s.outputs.getD [], o.name? = some n

end Select

end Names

end Sql

open Sql

/-- Whether a schema has a column up to the case of its letters A to Z. -/
def Schema.Has (schema : Schema) (n : String) : Prop :=
  ∃ c ∈ schema.columns, Text.equalAscii c n = true

theorem Schema.has_of_mem {schema : Schema} {n : String} (h : n ∈ schema.columns) :
    schema.Has n :=
  ⟨n, h, by simp [Text.equalAscii]⟩

namespace Query

open Lexeme (tokens)

/-! ## The columns of compiled queries -/

/-- What the names in the text of a compiled query are, read by the rules of the engine. -/
structure NamesColumns (p : ParameterSet) (schema : Schema) (today : Calendar.Date)
    (q : Compiled) : Prop where
  /-- No name stands without quotes: what is not a name of the query is a keyword or a mark. -/
  keyed : ∃ rest, Token.ofText q.sql = .word "SELECT" :: rest ∧
    ∀ t ∈ rest, IsKeyed q.select.names t
  /-- The names are those of what is selected, the table, and those of what restricts it. -/
  names : Token.names (Token.ofText q.sql) =
    q.select.selectedNames ++ Ledger.table :: q.select.restrictingNames
  /-- What is not looked up is named wherever it is needed. -/
  fixed : ∀ n ∈ fixedColumns p schema today, n ∈ q.select.columnNames
  /-- Everything else is a column of the schema, or the revenue where the query produces it. -/
  found : ∀ n ∈ q.select.columnNames, n ∈ fixedColumns p schema today ∨ n ∈ schema.columns ∨
    (n = totalSales ∧ q.select.Produces totalSales)
  /-- So the query names columns of the schema only if the schema has what is not looked up. -/
  sound_iff : (∀ n ∈ q.select.columnNames,
      schema.Has n ∨ (n = totalSales ∧ q.select.Produces totalSales)) ↔
    ∀ n ∈ fixedColumns p schema today, schema.Has n

section Columns

variable {p : ParameterSet} {schema : Schema} {today : Calendar.Date} {shape : Shape}

theorem outputs?_revenue (x : Option String) :
    ∃ outputs, outputs? p (some .revenue) x = some outputs ∧ revenueOutput ∈ outputs :=
  ⟨_, rfl, by simp⟩

theorem produces_of_revenue (h : measure? p schema = some .revenue) :
    (compiled p schema today shape).select.Produces totalSales := by
  obtain ⟨outputs, ho, hmem⟩ := outputs?_revenue (p := p) (category? p schema)
  refine ⟨revenueOutput, ?_, rfl⟩
  simpa [compiled, h, ho] using hmem

theorem fixedColumns_named {n : String} (h : n ∈ fixedColumns p schema today) :
    n ∈ (compiled p schema today shape).select.columnNames := by
  rcases List.mem_append.1 h with h | h
  · split at h
    · rename_i hm
      obtain ⟨outputs, ho, hmem⟩ := outputs?_revenue (p := p) (category? p schema)
      have hn : n ∈ revenueOutput.names := by
        rcases List.mem_cons.1 h with rfl | h
        · simp [revenueOutput, Output.names, Selection.term, Term.columns]
        · simp [List.mem_singleton.1 h, revenueOutput, Output.names, Selection.term, Term.columns]
      refine List.mem_append_left _ (List.mem_flatMap.2 ⟨revenueOutput, ?_, hn⟩)
      simpa [compiled, hm, ho] using hmem
    · cases h
  · obtain ⟨w, hw, rfl⟩ := Option.map_eq_some_iff.1 (Option.mem_toList.1 h)
    have hcondition : windowCondition w ∈ (compiled p schema today shape).select.conditions :=
      List.mem_append_left _ (by simp [hw])
    have hcolumn : (windowCondition w).column = dateColumn := by cases w <;> rfl
    refine List.mem_append_right _ (List.mem_append_left _ ?_)
    exact hcolumn ▸ List.mem_map_of_mem hcondition

theorem columnNames_found {n : String}
    (h : n ∈ (compiled p schema today shape).select.columnNames) :
    n ∈ fixedColumns p schema today ∨ n ∈ schema.columns ∨
      (n = totalSales ∧ (compiled p schema today shape).select.Produces totalSales) := by
  rcases compiled_columnNames today shape n h with hfixed | hcolumn | ⟨rfl, hm⟩
  · exact .inl hfixed
  · exact .inr (.inl (mem_columns_of_mem_resolvedNames hcolumn))
  · exact .inr (.inr ⟨rfl, produces_of_revenue hm⟩)

/-- The name of the revenue is none of the columns that are not looked up. -/
theorem ne_totalSales_of_fixed {n : String} (h : n ∈ fixedColumns p schema today) :
    n ≠ totalSales := by
  rcases List.mem_append.1 h with h | h
  · split at h
    · rcases List.mem_cons.1 h with rfl | h
      · decide
      · rw [List.mem_singleton.1 h]
        decide
    · cases h
  · obtain ⟨_, -, rfl⟩ := Option.map_eq_some_iff.1 (Option.mem_toList.1 h)
    decide

/-- **What a statement names.** Every name in the text of a compiled query is the table, the revenue
where the query produces it, a column of the schema, or a fixed column that the query needs; so the
schema has every column that is named exactly if it has those fixed columns. -/
theorem compile_columns {q : Compiled} (h : compile p schema today shape = .ok q) :
    NamesColumns p schema today q := by
  obtain ⟨-, rfl⟩ := compile_ok h
  have htokens : Token.ofText (compiled p schema today shape).sql =
      tokens (compiled p schema today shape).select.lexemes :=
    Select.ofText_sql (compiled p schema today shape).select
  refine ⟨?_, ?_, fun n hn => fixedColumns_named hn, fun n hn => columnNames_found hn,
    ⟨fun hall n hn => ?_, fun hfixed n hn => ?_⟩⟩
  · rw [htokens]
    exact Select.isKeyed_tokens (compiled_isReadable p schema today shape) fun n hn => hn
  · rw [htokens]
    exact Select.names_tokens _
  · rcases hall n (fixedColumns_named hn) with hhas | ⟨hrevenue, -⟩
    · exact hhas
    · exact absurd hrevenue (ne_totalSales_of_fixed hn)
  · rcases columnNames_found hn with hneeded | hcolumn | hrevenue
    · exact .inl (hfixed n hneeded)
    · exact .inl (Schema.has_of_mem hcolumn)
    · exact .inr hrevenue

/-- A set that asks for the sales of a month and for nothing else. -/
def monthly : ParameterSet where
  xAxis := none
  yAxis := none
  aggregation := .none
  filterColumn := none
  filterValue := none
  sortBy := none
  sortOrder := .descending
  limit := none
  timePeriod := some "this_month"

/-- A ledger without dates is asked for a date: the only column that it has is not named, and the
one that is named it does not have. -/
theorem compile_monthly_columns : ∃ q,
    compile monthly ⟨["item"]⟩ ⟨2025, 2, 20, by decide⟩ .lenient = .ok q ∧
      q.sql = "SELECT * FROM \"sales\" WHERE \"sale_date\" BETWEEN ? AND ?" ∧
      NamesColumns monthly ⟨["item"]⟩ ⟨2025, 2, 20, by decide⟩ q ∧
      ¬ ∀ n ∈ q.select.columnNames,
        Schema.Has ⟨["item"]⟩ n ∨ (n = totalSales ∧ q.select.Produces totalSales) := by
  have hq := compile_lenient monthly ⟨["item"]⟩ ⟨2025, 2, 20, by decide⟩
  have hcolumns := compile_columns hq
  refine ⟨_, hq, by decide +kernel, hcolumns, fun hall => ?_⟩
  obtain ⟨c, hc, hequal⟩ := hcolumns.sound_iff.1 hall dateColumn (by decide +kernel)
  rw [List.mem_singleton.1 hc] at hequal
  exact absurd hequal (by decide +kernel)

end Columns

end Query

end SalesLedger
