import SalesLedger.Parameters.Basic
import SalesLedger.Sql.Aggregate
import SalesLedger.Sql.Token

/-!
# Queries

A query of one table: what it selects, which rows it takes, how it groups, orders and caps them.
The values that a query compares with are part of it, but never of its text: `sql` writes a question
mark for each, and `bound` lists them in the order of the marks.

Main statement: `Condition.count_placeholder`, a condition has as many marks as it binds values.
-/

namespace SalesLedger

def SortOrder.keyword : SortOrder → String
  | .ascending => "ASC"
  | .descending => "DESC"

namespace Sql

/-- A value worked out from one row. -/
inductive Term where
  | column (name : String)
  | product (a b : Term)
  /-- Year and month of the moment that a column names. -/
  | monthOf (column : String)
  /-- A value for the rows whose column is at most the bound. -/
  | whenAtMost (column : String) (bound : Cell) (result : Term)
  deriving DecidableEq

/-- What is selected. -/
inductive Selection where
  | plain (t : Term)
  | aggregate (a : Aggregate) (t : Term)
  /-- An aggregate that is zero over nothing. -/
  | aggregateOrZero (a : Aggregate) (t : Term)
  deriving DecidableEq

/-- A column of the answer, with a name of its own or not. -/
structure Output where
  selection : Selection
  name? : Option String
  deriving DecidableEq

/-- What a row has to meet. -/
inductive Condition where
  | between (column : String) (low high : Cell)
  | yearIs (column : String) (year : Cell)
  | equals (column : String) (value : Cell)
  | atLeast (column : String) (low : Cell)
  deriving DecidableEq

/-- A query. -/
structure Select where
  /-- What is selected; everything, where nothing is named. -/
  outputs : Option (List Output)
  table : String
  conditions : List Condition
  groupBy : Option String
  orderBy : Option (String × SortOrder)
  limit : Option Nat
  deriving DecidableEq

/-! ## Text -/

def Aggregate.keyword : Aggregate → String
  | .sum => "SUM"
  | .average => "AVG"
  | .count => "COUNT"
  | .countDistinct => "COUNT"

open Lexeme in
def Term.lexemes : Term → List Lexeme
  | .column c => [name c]
  | .product a b => a.lexemes ++ [blank, symbol '*', blank] ++ b.lexemes
  | .monthOf c =>
    [word "strftime", symbol '(', literal "%Y-%m", symbol ',', blank, name c, symbol ')']
  | .whenAtMost c _ t =>
    [word "CASE", blank, word "WHEN", blank, name c, blank, symbol '<', symbol '=', blank,
      placeholder, blank, word "THEN", blank] ++ t.lexemes ++ [blank, word "END"]

/-- The values bound in a term. -/
def Term.bound : Term → List Cell
  | .column _ | .monthOf _ => []
  | .product a b => a.bound ++ b.bound
  | .whenAtMost _ value t => value :: t.bound

open Lexeme in
def Aggregate.lexemes (a : Aggregate) (t : Term) : List Lexeme :=
  [word a.keyword, symbol '('] ++ (if a = .countDistinct then [word "DISTINCT", blank] else [])
    ++ t.lexemes ++ [symbol ')']

open Lexeme in
def Selection.lexemes : Selection → List Lexeme
  | .plain t => t.lexemes
  | .aggregate a t => a.lexemes t
  | .aggregateOrZero a t =>
    [word "COALESCE", symbol '('] ++ a.lexemes t ++
      [symbol ',', blank, token (.number "0"), symbol ')']

def Selection.term : Selection → Term
  | .plain t | .aggregate _ t | .aggregateOrZero _ t => t

open Lexeme in
/-- The lexemes of a column of the answer. -/
def Output.lexemes (o : Output) : List Lexeme :=
  o.selection.lexemes ++
    match o.name? with
    | some n => [blank, word "AS", blank, name n]
    | none => []

open Lexeme in
def Condition.lexemes : Condition → List Lexeme
  | .between c _ _ =>
    [name c, blank, word "BETWEEN", blank, placeholder, blank, word "AND", blank, placeholder]
  | .yearIs c _ =>
    [word "strftime", symbol '(', literal "%Y", symbol ',', blank, name c, symbol ')', blank,
      symbol '=', blank, placeholder]
  | .equals c _ => [name c, blank, symbol '=', blank, placeholder]
  | .atLeast c _ => [name c, blank, symbol '>', symbol '=', blank, placeholder]

def Condition.column : Condition → String
  | .between c _ _ | .yearIs c _ | .equals c _ | .atLeast c _ => c

/-- Whether a condition asks for one value of its column. -/
def Condition.isEquality : Condition → Bool
  | .equals _ _ => true
  | _ => false

def Term.columns : Term → List String
  | .column c | .monthOf c => [c]
  | .product a b => a.columns ++ b.columns
  | .whenAtMost c _ t => c :: t.columns

/-- The values bound in a condition. -/
def Condition.bound : Condition → List Cell
  | .between _ low high => [low, high]
  | .yearIs _ value | .equals _ value | .atLeast _ value => [value]

/-- Lists of lexemes with a separator between them. -/
def separated (separator : List Lexeme) : List (List Lexeme) → List Lexeme
  | [] => []
  | [ls] => ls
  | ls :: rest => ls ++ separator ++ separated separator rest

namespace Select

/-- The cap as a bound value: no more than 64 bits with a sign hold. -/
def boundLimit (n : Nat) : Cell :=
  .integer (min n 0x7fffffffffffffff)

open Lexeme in
/-- The lexemes of what a query selects. -/
def outputLexemes (s : Select) : List Lexeme :=
  match s.outputs with
  | some outputs => separated [symbol ',', blank] (outputs.map Output.lexemes)
  | none => [symbol '*']

open Lexeme in
/-- The lexemes of the conditions of a query. -/
def conditionLexemes (s : Select) : List Lexeme :=
  if s.conditions.isEmpty then []
  else
    [blank, word "WHERE", blank] ++
      separated [blank, word "AND", blank] (s.conditions.map Condition.lexemes)

open Lexeme in
/-- The lexemes of the groups of a query. -/
def groupLexemes (s : Select) : List Lexeme :=
  match s.groupBy with
  | some c => [blank, word "GROUP", blank, word "BY", blank, name c]
  | none => []

open Lexeme in
/-- The lexemes of the order of a query. -/
def orderLexemes (s : Select) : List Lexeme :=
  match s.orderBy with
  | some (c, order) =>
    [blank, word "ORDER", blank, word "BY", blank, name c, blank, word order.keyword]
  | none => []

open Lexeme in
/-- The lexemes of the cap of a query. -/
def limitLexemes (s : Select) : List Lexeme :=
  match s.limit with
  | some _ => [blank, word "LIMIT", blank, placeholder]
  | none => []

open Lexeme in
def lexemes (s : Select) : List Lexeme :=
  [word "SELECT", blank] ++ s.outputLexemes ++ [blank, word "FROM", blank, name s.table] ++
    s.conditionLexemes ++ s.groupLexemes ++ s.orderLexemes ++ s.limitLexemes

/-- The text of a query. -/
def sql (s : Select) : String :=
  Lexeme.text s.lexemes

/-- The values bound to a query, in the order of its question marks. -/
def bound (s : Select) : List Cell :=
  ((s.outputs.getD []).flatMap fun o => o.selection.term.bound) ++
    s.conditions.flatMap Condition.bound ++
    (s.limit.map boundLimit).toList

/-! ## Laws -/

/-- How many question marks a row of lexemes has. -/
def placeholders (ls : List Lexeme) : Nat :=
  ls.count .placeholder

end Select

theorem Condition.count_placeholder (c : Condition) :
    Select.placeholders c.lexemes = c.bound.length := by
  cases c <;> rfl

end Sql

end SalesLedger
