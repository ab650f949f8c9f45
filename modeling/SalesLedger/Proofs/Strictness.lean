import SalesLedger.Query.Compile

/-!
# Strict and lenient callers

`compile_sharpens`: a strict caller gets the statement of a lenient one, in an order and with a cap
in any case, or is refused because an axis was not found. The two statements have one text up to
the order, `Select.headText`, and one row of values up to the cap.
-/

namespace SalesLedger

namespace Sql

theorem Lexeme.text_append (ls more : List Lexeme) :
    Lexeme.text (ls ++ more) = Lexeme.text ls ++ Lexeme.text more := by
  simp [Lexeme.text, String.ofList_append]

namespace Select

open Lexeme in
/-- The text of what is selected, from which table, under which conditions and in which groups. -/
def headText (s : Select) : String :=
  Lexeme.text ([word "SELECT", blank] ++ s.outputLexemes ++
    [blank, word "FROM", blank, name s.table] ++ s.conditionLexemes ++ s.groupLexemes)

def orderText : Option (String × SortOrder) → String
  | some (c, order) => " ORDER BY " ++ Schema.quote c ++ " " ++ order.keyword
  | none => ""

def limitText : Option Nat → String
  | some _ => " LIMIT ?"
  | none => ""

theorem text_orderLexemes (s : Select) : Lexeme.text s.orderLexemes = orderText s.orderBy := by
  unfold orderLexemes orderText
  cases s.orderBy with
  | none => rfl
  | some order =>
    obtain ⟨c, d⟩ := order
    apply String.toList_inj.1
    simp [Lexeme.text, Lexeme.chars, Lexeme.word, Lexeme.name, Token.chars, Token.quoteWith,
      Schema.quote]

theorem text_limitLexemes (s : Select) : Lexeme.text s.limitLexemes = limitText s.limit := by
  unfold limitLexemes limitText
  cases s.limit with
  | none => rfl
  | some n => rfl

/-- **The text of a query** is its head, its order and its cap. -/
theorem sql_eq (s : Select) : s.sql = s.headText ++ orderText s.orderBy ++ limitText s.limit := by
  unfold sql lexemes
  rw [Lexeme.text_append, Lexeme.text_append, text_orderLexemes, text_limitLexemes]
  rfl

end Select

end Sql

namespace Query

open Sql

variable (p : ParameterSet) (schema : Schema)

/-- An axis is missing: it is not named, or its name is not found and is not that of the revenue. -/
def LacksAxis : Prop :=
  p.xAxis.bind schema.resolve? = none ∨
    ∀ y, p.yAxis = some y → meansRevenue y = false ∧ schema.resolve? y = none

variable {p schema}

theorem measure?_eq_none_iff : measure? p schema = none ↔
    ∀ y, p.yAxis = some y → meansRevenue y = false ∧ schema.resolve? y = none := by
  unfold measure? column?
  cases p.yAxis with
  | none => simp
  | some y => cases hrevenue : meansRevenue y <;> simp [hrevenue]

theorem measureName?_eq_none_iff {m : Option Measure} {x : Option String} :
    measureName? m x = none ↔ m = none ∨ (x = none ∧ m ≠ some .revenue) := by
  rcases m with _ | m
  · simp [measureName?]
  · cases m <;> cases x <;> simp [measureName?]

/-- **Only a missing axis is refused.** -/
theorem isRefused_strict_iff : isRefused p schema .strict = true ↔ LacksAxis p schema := by
  unfold LacksAxis
  rw [← measure?_eq_none_iff]
  simp only [isRefused, decide_eq_true_eq, measureName?_eq_none_iff, category?]
  constructor
  · rintro ⟨-, hx | hm | ⟨hx, -⟩⟩
    · exact .inl hx
    · exact .inr hm
    · exact .inl hx
  · rintro (hx | hm)
    · exact ⟨trivial, .inl hx⟩
    · exact ⟨trivial, .inr (.inl hm)⟩

/-- A strict caller's order is that of a lenient one, or else that of the measure. -/
theorem orderTarget?_strict (p : ParameterSet) (schema : Schema) : orderTarget? p schema .strict =
    (orderTarget? p schema .lenient).or (measureName? (measure? p schema) (category? p schema)) :=
  rfl

variable (p) in
/-- A strict caller's statement beside that of a lenient one. -/
structure Sharpens (lenient strict : Compiled) : Prop where
  xAxis : strict.xAxis = lenient.xAxis
  measure : strict.measure = lenient.measure
  lenient_sql : lenient.sql = lenient.select.headText ++
    Select.orderText lenient.select.orderBy ++ Select.limitText p.limit
  /-- The text differs where a lenient caller has no order or no cap. -/
  strict_sql : ∃ name, lenient.measure = some name ∧ strict.sql = lenient.select.headText ++
    Select.orderText (some (lenient.select.orderBy.getD (name, p.sortOrder))) ++
      Select.limitText (some (p.limit.getD defaultLimit))
  bound : ∃ values, lenient.bound = values ++ (p.limit.map Select.boundLimit).toList ∧
    strict.bound = values ++ [Select.boundLimit (p.limit.getD defaultLimit)]

theorem sharpens_compiled (today : Calendar.Date) (h : isRefused p schema .strict = false) :
    Sharpens p (compiled p schema today .lenient) (compiled p schema today .strict) := by
  obtain ⟨name, hname⟩ : ∃ name,
      measureName? (measure? p schema) (category? p schema) = some name := by
    rw [← Option.ne_none_iff_exists']
    intro hnone
    simp [isRefused, hnone] at h
  have horder : (compiled p schema today .strict).select.orderBy =
      some ((compiled p schema today .lenient).select.orderBy.getD (name, p.sortOrder)) := by
    simp only [compiled, orderTarget?_strict, hname]
    cases orderTarget? p schema .lenient <;> rfl
  refine ⟨rfl, rfl, Select.sql_eq _, ⟨name, hname, ?_⟩, ?_⟩
  · rw [← horder]
    exact Select.sql_eq _
  · exact ⟨_, rfl, rfl⟩

variable (p schema) in
/-- **Strict and lenient callers.** A lenient caller is never refused, a strict one exactly where an
axis is missing. Otherwise the strict caller's statement is the lenient one with an order and a
cap. -/
theorem compile_sharpens (today : Calendar.Date) :
    ∃ lenient, compile p schema today .lenient = .ok lenient ∧
      ((LacksAxis p schema ∧
          ∃ r, compile p schema today .strict = .error r ∧ r.toFailure.kind = .rejected) ∨
        (¬ LacksAxis p schema ∧
          ∃ strict, compile p schema today .strict = .ok strict ∧ Sharpens p lenient strict)) := by
  refine ⟨_, compile_lenient p schema today, ?_⟩
  rw [← isRefused_strict_iff]
  cases h : isRefused p schema .strict with
  | true => exact .inl ⟨rfl, _, by rw [compile, h, if_pos rfl], rfl⟩
  | false =>
    refine .inr ⟨Bool.false_ne_true, _, ?_, sharpens_compiled today h⟩
    rw [compile, h, if_neg Bool.false_ne_true]

end Query

end SalesLedger
