import SalesLedger.Sql.Select

/-!
# Statements

The query that a row of tokens says, with the values that are bound to its question marks taken in
turn: the first mark stands for the first value. A statement is one SELECT with nothing before or
behind it; every value has a mark and every mark a value.

Of what can be selected only columns, products of two columns and their aggregates are read.

Main statements: `read_nil`, no tokens are no statement, and `limit?_some`, a cap is bound and never
written.
-/

namespace SalesLedger.Sql.Statement

open Token

/-! ## What is selected -/

/-- A column or a product of two, and what follows it. -/
def term? : List Token → Option (Term × List Token)
  | name a :: symbol '*' :: name b :: rest => some (.product (.column a) (.column b), rest)
  | name a :: rest => some (.column a, rest)
  | _ => none

def aggregate? (keyword : String) : Option Aggregate :=
  [.sum, .average, .count].find? fun a => a.keyword == keyword

/-- What is selected, and what follows it. -/
def selection? : List Token → Option (Selection × List Token)
  | word keyword :: symbol '(' :: rest =>
    match aggregate? keyword, term? rest with
    | some a, some (t, symbol ')' :: rest) => some (.aggregate a t, rest)
    | _, _ => none
  | ts => (term? ts).map fun (t, rest) => (.plain t, rest)

/-- A name of its own, if one follows, and what is behind it. -/
def ownName : List Token → Option String × List Token
  | word "AS" :: name n :: rest => (some n, rest)
  | ts => (none, ts)

/-- Columns of the answer with commas between them, within so many, and what follows them. -/
def outputs? : Nat → List Token → Option (List Output × List Token)
  | 0, _ => none
  | fuel + 1, ts => do
    let (selection, rest) ← selection? ts
    let (name?, rest) := ownName rest
    match rest with
    | symbol ',' :: rest =>
      let (more, rest) ← outputs? fuel rest
      pure (⟨selection, name?⟩ :: more, rest)
    | _ => pure ([⟨selection, name?⟩], rest)

/-- All that is selected: everything, or columns of the answer. -/
def selected? : List Token → Option (Option (List Output) × List Token)
  | symbol '*' :: rest => some (none, rest)
  | ts => (outputs? ts.length ts).map fun (outputs, rest) => (some outputs, rest)

/-! ## Clauses -/

/-- A condition with its values, and what follows it and them. -/
def condition? : List Token → List Cell → Option (Condition × List Token × List Cell)
  | name c :: word "BETWEEN" :: placeholder :: word "AND" :: placeholder :: rest,
      low :: high :: values => some (.between c low high, rest, values)
  | word "strftime" :: symbol '(' :: literal "%Y" :: symbol ',' :: name c :: symbol ')' ::
      symbol '=' :: placeholder :: rest, year :: values => some (.yearIs c year, rest, values)
  | name c :: symbol '=' :: placeholder :: rest, value :: values =>
    some (.equals c value, rest, values)
  | name c :: symbol '>' :: symbol '=' :: placeholder :: rest, low :: values =>
    some (.atLeast c low, rest, values)
  | _, _ => none

/-- Conditions that all have to be met, within so many, and what follows them and their values. -/
def conditions? : Nat → List Token → List Cell →
    Option (List Condition × List Token × List Cell)
  | 0, _, _ => none
  | fuel + 1, ts, values => do
    let (c, rest, values) ← condition? ts values
    match rest with
    | word "AND" :: rest =>
      let (more, rest, values) ← conditions? fuel rest values
      pure (c :: more, rest, values)
    | _ => pure ([c], rest, values)

/-- The conditions of a statement, if it has any. -/
def restriction? (ts : List Token) (values : List Cell) :
    Option (List Condition × List Token × List Cell) :=
  match ts with
  | word "WHERE" :: rest => conditions? rest.length rest values
  | _ => some ([], ts, values)

/-- The column that rows are grouped by, if there is one. -/
def grouping : List Token → Option String × List Token
  | word "GROUP" :: word "BY" :: name c :: rest => (some c, rest)
  | ts => (none, ts)

/-- The name and the direction that rows are ordered by, if there are any. -/
def ordering : List Token → Option (String × SortOrder) × List Token
  | word "ORDER" :: word "BY" :: name c :: word "ASC" :: rest => (some (c, .ascending), rest)
  | word "ORDER" :: word "BY" :: name c :: word "DESC" :: rest => (some (c, .descending), rest)
  | ts => (none, ts)

/-- The cap at the end of a statement, which has the last value, or the end itself. -/
def limit? : List Token → List Cell → Option (Option Nat)
  | [word "LIMIT", placeholder], [.integer n] => if 0 ≤ n then some (some n.toNat) else none
  | [], [] => some none
  | _, _ => none

/-! ## Statements -/

/-- The query that a statement says with its values. -/
def read (ts : List Token) (values : List Cell) : Option Select :=
  match ts with
  | word "SELECT" :: rest => do
    let (outputs, rest) ← selected? rest
    match rest with
    | word "FROM" :: name table :: rest =>
      let (conditions, rest, values) ← restriction? rest values
      let (groupBy, rest) := grouping rest
      let (orderBy, rest) := ordering rest
      let limit ← limit? rest values
      pure { outputs, table, conditions, groupBy, orderBy, limit }
    | _ => none
  | _ => none

/-! ## Laws -/

theorem read_nil (values : List Cell) : read [] values = none := rfl

theorem limit?_some {ts : List Token} {values : List Cell} {n : Nat}
    (h : limit? ts values = some (some n)) :
    ts = [word "LIMIT", placeholder] ∧ values = [.integer n] := by
  unfold limit? at h
  split at h
  · split at h
    · rename_i hn
      simp only [Option.some.injEq] at h
      rw [← h, Int.toNat_of_nonneg hn]
      exact ⟨rfl, rfl⟩
    · cases h
  · cases h
  · cases h

end SalesLedger.Sql.Statement
