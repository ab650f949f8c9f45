import SalesLedger.Proofs.Lexing
import SalesLedger.Sql.Statement

/-!
# Queries read back from their text

`Statement.read_tokens`: the tokens of a query, with its bound values, say that query again
(`Select.settled`: the cap is bound in 64 bits). So the text of a query has no reading but the one
that it was written for, and the values stand at their question marks in the order in which they
are bound.

* `IsReadable`: what can be read of the columns of an answer, which is what queries of a parameter
  set select.
* `term?_lexemes`, `selection?_lexemes`, `outputs?_lexemes`, `condition?_lexemes`,
  `conditions?_lexemes`: one law for each reader, with whatever follows.
* `count_placeholder`: a query has as many question marks as it binds values.
-/

namespace SalesLedger.Sql

open Lexeme (tokens blank)

/-! ## Tokens of rows -/

namespace Lexeme

@[simp] theorem tokens_append (ls more : List Lexeme) :
    tokens (ls ++ more) = tokens ls ++ tokens more := by
  simp [tokens]

@[simp] theorem tokens_nil : tokens [] = [] := rfl

@[simp] theorem tokens_blank (ls : List Lexeme) : tokens (blank :: ls) = tokens ls := rfl

@[simp] theorem tokens_token (t : Token) (ls : List Lexeme) :
    tokens (token t :: ls) = t :: tokens ls := rfl

@[simp] theorem tokens_word (s : String) (ls : List Lexeme) :
    tokens (word s :: ls) = .word s :: tokens ls := rfl

@[simp] theorem tokens_symbol (c : Char) (ls : List Lexeme) :
    tokens (symbol c :: ls) = .symbol c :: tokens ls := rfl

@[simp] theorem tokens_name (s : String) (ls : List Lexeme) :
    tokens (name s :: ls) = .name s :: tokens ls := rfl

@[simp] theorem tokens_placeholder (ls : List Lexeme) :
    tokens (placeholder :: ls) = .placeholder :: tokens ls := rfl

theorem tokens_separated (separator : List Lexeme) (ls more : List Lexeme)
    (rest : List (List Lexeme)) :
    tokens (separated separator (ls :: more :: rest)) =
      tokens ls ++ tokens separator ++ tokens (separated separator (more :: rest)) := by
  rw [separated, tokens_append, tokens_append]
  simp

/-- A row of rows that each have a token has at least as many tokens as rows. -/
theorem length_le_tokens_separated (separator : List Lexeme) (rows : List (List Lexeme))
    (h : ∀ ls ∈ rows, tokens ls ≠ []) :
    rows.length ≤ (tokens (separated separator rows)).length := by
  induction rows with
  | nil => exact Nat.zero_le _
  | cons ls rows ih =>
    have hpos := List.length_pos_iff.2 (h ls (by simp))
    cases rows with
    | nil => exact hpos
    | cons more rows =>
      have hrest := ih fun ls hls => h ls (List.mem_cons_of_mem _ hls)
      rw [tokens_separated]
      simp only [List.length_append, List.length_cons] at hrest ⊢
      omega

end Lexeme

/-! ## Question marks -/

theorem Lexeme.count_tokens (ls : List Lexeme) :
    (tokens ls).count .placeholder = Select.placeholders ls := by
  induction ls with
  | nil => rfl
  | cons l ls ih =>
    unfold Select.placeholders at ih ⊢
    cases l with
    | blank =>
      rw [tokens_blank, ih, List.count_cons_of_ne (by simp [placeholder])]
    | token t =>
      have ht : (token t == placeholder) = (t == .placeholder) := by
        rw [Bool.eq_iff_iff, beq_iff_eq, beq_iff_eq, placeholder, token.injEq]
      rw [tokens_token, List.count_cons, List.count_cons, ih, ht]

theorem placeholders_append (ls more : List Lexeme) :
    Select.placeholders (ls ++ more) = Select.placeholders ls + Select.placeholders more :=
  List.count_append

theorem placeholders_separated {α : Type} {separator : List Lexeme}
    (hs : Select.placeholders separator = 0) {f : α → List Lexeme} {bound : α → List Cell}
    {xs : List α} (h : ∀ x ∈ xs, Select.placeholders (f x) = (bound x).length) :
    Select.placeholders (separated separator (xs.map f)) = (xs.flatMap bound).length := by
  induction xs with
  | nil => rfl
  | cons x xs ih =>
    have hx := h x (by simp)
    have hrest := ih fun y hy => h y (List.mem_cons_of_mem _ hy)
    rw [List.flatMap_cons, List.length_append, ← hx, ← hrest]
    cases xs with
    | nil => rfl
    | cons y xs =>
      rw [List.map_cons, List.map_cons, separated, placeholders_append, placeholders_append, hs]
      · rfl
      · simp

theorem Term.count_placeholder (t : Term) :
    Select.placeholders t.lexemes = t.bound.length := by
  induction t with
  | column c => rfl
  | monthOf c => rfl
  | product a b iha ihb =>
    rw [lexemes, placeholders_append, placeholders_append, iha, ihb, bound, List.length_append]
    rfl
  | whenAtMost c value t ih =>
    rw [lexemes, placeholders_append, placeholders_append, ih, bound, List.length_cons]
    show 1 + t.bound.length + 0 = _
    omega

theorem Selection.count_placeholder (s : Selection) :
    Select.placeholders s.lexemes = s.term.bound.length := by
  have haggregate : ∀ (a : Aggregate) (t : Term),
      Select.placeholders (a.lexemes t) = t.bound.length := by
    intro a t
    rw [Aggregate.lexemes, placeholders_append, placeholders_append, t.count_placeholder]
    cases a <;> exact Nat.zero_add _
  cases s with
  | plain t => exact t.count_placeholder
  | aggregate a t => exact haggregate a t
  | aggregateOrZero a t =>
    rw [lexemes, placeholders_append, placeholders_append, haggregate]
    exact Nat.zero_add _

theorem Output.count_placeholder (o : Output) :
    Select.placeholders o.lexemes = o.selection.term.bound.length := by
  rw [lexemes, placeholders_append, o.selection.count_placeholder]
  cases o.name? <;> rfl

namespace Select

/-- **A query has as many question marks as it binds values.** -/
theorem count_placeholder (s : Select) : placeholders s.lexemes = s.bound.length := by
  have houtputs : placeholders s.outputLexemes =
      ((s.outputs.getD []).flatMap fun o => o.selection.term.bound).length := by
    unfold outputLexemes
    cases s.outputs with
    | none => rfl
    | some outputs => exact placeholders_separated rfl fun o _ => o.count_placeholder
  have hconditions : placeholders s.conditionLexemes =
      (s.conditions.flatMap Condition.bound).length := by
    unfold conditionLexemes
    split
    · rename_i hempty
      rw [List.isEmpty_iff.1 hempty]
      rfl
    · rw [placeholders_append, placeholders_separated rfl fun c _ => c.count_placeholder]
      exact Nat.zero_add _
  have hgroup : placeholders s.groupLexemes = 0 := by
    unfold groupLexemes
    cases s.groupBy <;> rfl
  have horder : placeholders s.orderLexemes = 0 := by
    unfold orderLexemes
    obtain _ | ⟨c, order⟩ := s.orderBy
    · rfl
    · cases order <;> rfl
  have hlimit : placeholders s.limitLexemes = (s.limit.map boundLimit).toList.length := by
    unfold limitLexemes
    cases s.limit <;> rfl
  have hselect : placeholders [Lexeme.word "SELECT", blank] = 0 := rfl
  have htable : placeholders [blank, Lexeme.word "FROM", blank, Lexeme.name s.table] = 0 := rfl
  simp only [lexemes, placeholders_append, hselect, houtputs, htable, hconditions, hgroup, horder,
    hlimit, bound, List.length_append, Nat.zero_add, Nat.add_zero]

end Select

/-! ## What can be read -/

/-- A column or a product of two columns. -/
def Term.IsReadable : Term → Prop
  | .column _ | .product (.column _) (.column _) => True
  | _ => False

/-- A readable term as it is, or summed up where every value counts. -/
def Selection.IsReadable : Selection → Prop
  | .plain t => t.IsReadable
  | .aggregate a t => a ≠ .countDistinct ∧ t.IsReadable
  | .aggregateOrZero _ _ => False

/-- A query that selects everything, or at least one column, each of them readable. -/
def Select.IsReadable (s : Select) : Prop :=
  ∀ outputs, s.outputs = some outputs → outputs ≠ [] ∧ ∀ o ∈ outputs, o.selection.IsReadable

/-- A query as its bound values say it: a cap of more than 64 bits is the greatest that they
hold. -/
def Select.settled (s : Select) : Select :=
  { s with limit := s.limit.map fun n => min n 0x7fffffffffffffff }

namespace Statement

open Token

/-! ## What is selected -/

theorem term?_lexemes {t : Term} (h : t.IsReadable) {rest : List Token}
    (hr : rest.head? ≠ some (symbol '*')) : term? (tokens t.lexemes ++ rest) = some (t, rest) := by
  cases t with
  | column c =>
    show term? (name c :: rest) = _
    unfold term?
    split
    · rename_i heq
      simp only [List.cons.injEq] at heq
      rw [heq.2] at hr
      exact absurd rfl hr
    · rename_i heq
      cases heq
      rfl
    · rename_i hno
      exact absurd rfl (hno c rest)
  | product a b =>
    cases a with
    | column a =>
      cases b with
      | column b => rfl
      | _ => exact h.elim
    | _ => exact h.elim
  | _ => exact h.elim

theorem aggregate?_keyword {a : Aggregate} (h : a ≠ .countDistinct) :
    aggregate? a.keyword = some a := by
  cases a with
  | countDistinct => exact absurd rfl h
  | _ => decide +kernel

theorem selection?_lexemes {s : Selection} (h : s.IsReadable) {rest : List Token}
    (hr : rest.head? ≠ some (symbol '*')) :
    selection? (tokens s.lexemes ++ rest) = some (s, rest) := by
  cases s with
  | plain t =>
    have ht := term?_lexemes h hr
    cases t with
    | column c =>
      show (term? (tokens (Term.column c).lexemes ++ rest)).map _ = _
      rw [ht]; rfl
    | product a b =>
      cases a with
      | column a =>
        show (term? (tokens (Term.product (.column a) b).lexemes ++ rest)).map _ = _
        rw [ht]; rfl
      | _ => exact h.elim
    | _ => exact h.elim
  | aggregate a t =>
    obtain ⟨ha, ht⟩ := h
    have hrow : tokens (a.lexemes t) ++ rest =
        word a.keyword :: symbol '(' :: (tokens t.lexemes ++ symbol ')' :: rest) := by
      rw [Aggregate.lexemes, if_neg ha]
      simp [tokens, Lexeme.word, Lexeme.symbol]
    rw [Selection.lexemes, hrow, selection?, aggregate?_keyword ha, term?_lexemes ht (by simp)]
    rfl
  | aggregateOrZero a t => exact h.elim

theorem ownName_of_head {ts : List Token} (h : ts.head? ≠ some (word "AS")) :
    ownName ts = (none, ts) := by
  unfold ownName
  split
  · exact absurd rfl h
  · rfl

/-- A column of the answer is read up to what is neither part of it nor its name. -/
theorem output?_lexemes {o : Output} (h : o.selection.IsReadable) (rest : List Token)
    (hs : rest.head? ≠ some (symbol '*')) (hn : rest.head? ≠ some (word "AS")) :
    ∃ ts, selection? (tokens o.lexemes ++ rest) = some (o.selection, ts) ∧
      ownName ts = (o.name?, rest) := by
  obtain ⟨s, n?⟩ := o
  cases n? with
  | none =>
    refine ⟨rest, ?_, ownName_of_head hn⟩
    rw [Output.lexemes, Lexeme.tokens_append]
    show selection? (tokens s.lexemes ++ [] ++ rest) = _
    rw [List.append_nil]
    exact selection?_lexemes h hs
  | some n =>
    refine ⟨word "AS" :: name n :: rest, ?_, rfl⟩
    rw [Output.lexemes, Lexeme.tokens_append, List.append_assoc]
    exact selection?_lexemes h (by simp [tokens, Lexeme.word])

theorem outputs?_lexemes {outputs : List Output} (hne : outputs ≠ [])
    (h : ∀ o ∈ outputs, o.selection.IsReadable) {rest : List Token}
    (hr : rest.head? = some (word "FROM")) (fuel : Nat) (hf : outputs.length ≤ fuel) :
    outputs? fuel (tokens (separated [Lexeme.symbol ',', blank] (outputs.map Output.lexemes)) ++
      rest) = some (outputs, rest) := by
  induction outputs generalizing fuel with
  | nil => exact absurd rfl hne
  | cons o outputs ih =>
    obtain ⟨n, rfl⟩ : ∃ n, fuel = n + 1 := ⟨fuel - 1, by simp at hf; omega⟩
    cases outputs with
    | nil =>
      obtain ⟨ts, hsel, hname⟩ := output?_lexemes (h o (by simp)) rest
        (by simp [hr]) (by simp [hr])
      obtain ⟨r, rfl⟩ : ∃ r, rest = word "FROM" :: r := by
        cases rest with
        | nil => simp at hr
        | cons t r => exact ⟨r, by simpa using hr⟩
      rw [List.map_cons, List.map_nil, separated, outputs?, hsel]
      simp [hname]
    | cons p outputs =>
      have hrest := ih (by simp) (fun o ho => h o (List.mem_cons_of_mem _ ho)) n
        (by simp at hf ⊢; omega)
      have hcomma : tokens [Lexeme.symbol ',', blank] = [symbol ','] := rfl
      rw [List.map_cons] at hrest
      rw [List.map_cons, List.map_cons, Lexeme.tokens_separated, List.append_assoc,
        List.append_assoc, hcomma, List.cons_append, List.nil_append]
      obtain ⟨ts, hsel, hname⟩ := output?_lexemes (h o (by simp))
        (symbol ',' :: (tokens (separated [Lexeme.symbol ',', blank]
          (p.lexemes :: outputs.map Output.lexemes)) ++ rest)) (by simp) (by simp)
      rw [outputs?, hsel]
      simp only [Option.bind_eq_bind, Option.bind_some, hname, hrest]
      rfl

/-! ## Conditions -/

theorem condition?_lexemes (c : Condition) (rest : List Token) (values : List Cell) :
    condition? (tokens c.lexemes ++ rest) (c.bound ++ values) = some (c, rest, values) := by
  cases c <;> rfl

theorem conditions?_lexemes {cs : List Condition} (hne : cs ≠ []) {rest : List Token}
    (hr : rest.head? ≠ some (word "AND")) (values : List Cell) (fuel : Nat)
    (hf : cs.length ≤ fuel) :
    conditions? fuel (tokens (separated [blank, Lexeme.word "AND", blank]
      (cs.map Condition.lexemes)) ++ rest) (cs.flatMap Condition.bound ++ values) =
      some (cs, rest, values) := by
  induction cs generalizing fuel with
  | nil => exact absurd rfl hne
  | cons c cs ih =>
    obtain ⟨n, rfl⟩ : ∃ n, fuel = n + 1 := ⟨fuel - 1, by simp at hf; omega⟩
    cases cs with
    | nil =>
      rw [List.map_cons, List.map_nil, separated, List.flatMap_cons, List.flatMap_nil,
        List.append_nil, conditions?, condition?_lexemes]
      simp only [Option.bind_eq_bind, Option.bind_some]
      split
      · exact absurd rfl hr
      · rfl
    | cons d cs =>
      have hrest := ih (by simp) n (by simp at hf ⊢; omega)
      have hand : tokens [blank, Lexeme.word "AND", blank] = [word "AND"] := rfl
      rw [List.map_cons] at hrest
      rw [List.map_cons, List.map_cons, Lexeme.tokens_separated, List.flatMap_cons,
        List.append_assoc, List.append_assoc, List.append_assoc, hand, conditions?,
        condition?_lexemes]
      simp only [Option.bind_eq_bind, Option.bind_some, List.cons_append, List.nil_append, hrest]
      rfl

end Statement

/-! ## Clauses -/

/-- **A statement clause by clause.** -/
theorem Select.tokens_lexemes (s : Select) :
    tokens s.lexemes = .word "SELECT" :: (tokens s.outputLexemes ++ .word "FROM" ::
      .name s.table :: (tokens s.conditionLexemes ++ (tokens s.groupLexemes ++
        (tokens s.orderLexemes ++ tokens s.limitLexemes)))) := by
  unfold lexemes
  simp only [Lexeme.tokens_append, List.append_assoc]
  rfl

namespace Statement

open Token

theorem tokens_output_ne_nil {o : Output} (h : o.selection.IsReadable) : tokens o.lexemes ≠ [] := by
  intro hnil
  obtain ⟨ts, hsel, -⟩ := output?_lexemes h [] (by simp) (by simp)
  rw [hnil] at hsel
  cases hsel

theorem bound_term {s : Selection} (h : s.IsReadable) : s.term.bound = [] := by
  have hterm : s.term.IsReadable := by
    cases s with
    | plain t => exact h
    | aggregate a t => exact h.2
    | aggregateOrZero a t => exact h.elim
  revert hterm
  generalize s.term = t
  intro ht
  match t, ht with
  | .column _, _ => rfl
  | .product (.column _) (.column _), _ => rfl

theorem selected?_tokens {s : Select} (h : s.IsReadable) {rest : List Token}
    (hr : rest.head? = some (word "FROM")) :
    selected? (tokens s.outputLexemes ++ rest) = some (s.outputs, rest) := by
  unfold Select.outputLexemes
  cases hs : s.outputs with
  | none => rfl
  | some outputs =>
    obtain ⟨hne, hread⟩ := h outputs hs
    dsimp only
    have hlen : outputs.length ≤ (tokens (separated [Lexeme.symbol ',', blank]
        (outputs.map Output.lexemes)) ++ rest).length := by
      have := Lexeme.length_le_tokens_separated [Lexeme.symbol ',', blank]
        (outputs.map Output.lexemes) fun ls hls => by
          obtain ⟨o, ho, rfl⟩ := List.mem_map.1 hls
          exact tokens_output_ne_nil (hread o ho)
      rw [List.length_map] at this
      rw [List.length_append]
      omega
    have houtputs := outputs?_lexemes hne hread hr _ hlen
    unfold selected?
    split
    · -- no column of an answer begins with a star
      rename_i more heq
      rw [heq] at houtputs
      cases houtputs
    · rw [houtputs]; rfl

theorem restriction?_tokens (s : Select) {rest : List Token}
    (hw : rest.head? ≠ some (word "WHERE")) (ha : rest.head? ≠ some (word "AND"))
    (values : List Cell) :
    restriction? (tokens s.conditionLexemes ++ rest)
      (s.conditions.flatMap Condition.bound ++ values) = some (s.conditions, rest, values) := by
  unfold Select.conditionLexemes
  split
  · rename_i hempty
    rw [List.isEmpty_iff.1 hempty]
    show restriction? rest values = _
    unfold restriction?
    split
    · exact absurd rfl hw
    · rfl
  · rename_i hempty
    have hlen := Lexeme.length_le_tokens_separated [blank, Lexeme.word "AND", blank]
      (s.conditions.map Condition.lexemes) fun ls hls => by
        obtain ⟨c, -, rfl⟩ := List.mem_map.1 hls
        cases c <;> simp [Condition.lexemes]
    rw [List.length_map] at hlen
    simp only [List.cons_append, List.nil_append, Lexeme.tokens_blank, Lexeme.tokens_word,
      restriction?]
    exact conditions?_lexemes (by simpa using hempty) ha values _
      (by rw [List.length_append]; omega)

theorem grouping_tokens (s : Select) {rest : List Token} (hr : rest.head? ≠ some (word "GROUP")) :
    grouping (tokens s.groupLexemes ++ rest) = (s.groupBy, rest) := by
  unfold Select.groupLexemes
  cases s.groupBy with
  | some c => rfl
  | none =>
    show grouping rest = _
    unfold grouping
    split
    · exact absurd rfl hr
    · rfl

theorem ordering_tokens (s : Select) {rest : List Token} (hr : rest.head? ≠ some (word "ORDER")) :
    ordering (tokens s.orderLexemes ++ rest) = (s.orderBy, rest) := by
  unfold Select.orderLexemes
  cases s.orderBy with
  | some o =>
    obtain ⟨c, order⟩ := o
    cases order <;> rfl
  | none =>
    show ordering rest = _
    unfold ordering
    split
    · exact absurd rfl hr
    · exact absurd rfl hr
    · rfl

theorem limit?_tokens (s : Select) :
    limit? (tokens s.limitLexemes) (s.limit.map Select.boundLimit).toList =
      some s.settled.limit := by
  unfold Select.limitLexemes Select.settled
  cases s.limit with
  | none => rfl
  | some n =>
    simp only [Option.map_some, Option.toList_some, Select.boundLimit, Lexeme.tokens_blank,
      Lexeme.tokens_word, Lexeme.tokens_placeholder, Lexeme.tokens_nil, limit?]
    rw [if_pos (by omega)]
    congr 2
    omega

theorem bound_outputs {s : Select} (h : s.IsReadable) :
    ((s.outputs.getD []).flatMap fun o => o.selection.term.bound) = [] := by
  cases hs : s.outputs with
  | none => rfl
  | some outputs =>
    rw [Option.getD_some, List.flatMap_eq_nil_iff]
    intro o ho
    exact bound_term ((h outputs hs).2 o ho)

/-- **The tokens of a query say it again** with the values that are bound to it. -/
theorem read_tokens {s : Select} (h : s.IsReadable) :
    read (tokens s.lexemes) s.bound = some s.settled := by
  rw [Select.tokens_lexemes, Select.bound, bound_outputs h, List.nil_append]
  simp only [read]
  rw [selected?_tokens h rfl]
  simp only [Option.bind_eq_bind, Option.bind_some]
  rw [restriction?_tokens s ?_ ?_]
  · simp only [Option.bind_some]
    rw [grouping_tokens s ?_]
    · simp only
      rw [ordering_tokens s ?_]
      · simp only [limit?_tokens, Option.bind_some]
        rfl
      · unfold Select.limitLexemes
        split <;> simp
    · unfold Select.orderLexemes Select.limitLexemes
      split <;> split <;> simp
  · unfold Select.groupLexemes Select.orderLexemes Select.limitLexemes
    split <;> split <;> split <;> simp
  · unfold Select.groupLexemes Select.orderLexemes Select.limitLexemes
    split <;> split <;> split <;> simp

end Statement

end SalesLedger.Sql
