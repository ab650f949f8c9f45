import SalesLedger.Sql.Expression.Basic

/-!
# Names in expressions

The names that an expression may mean columns by, in the order in which they stand in it.

Main statement: `names_between`, what lies between two others names what all three name, the first
one twice.
-/

namespace SalesLedger.Sql.Expression

mutual

def names : Expression → List String
  | column n | quoted n => [n]
  | arithmetic _ a b | bits _ a b | concat a b | compare _ a b | identical a b | both a b
  | either a b => names a ++ names b
  | inverted a | not a | isTruth a _ | cast a _ | collate a _ | unturned a => names a
  | among a items => names a ++ namesOf items
  | choose c a b => names c ++ names a ++ names b
  | call _ args | first args | row args => namesOf args
  | compareRows _ as bs | identicalRows as bs => namesOf as ++ namesOf bs
  | withinRows as lows highs => namesOf as ++ namesOf lows ++ namesOf highs
  | literal _ | truth _ => []

/-- The names in some expressions. -/
def namesOf : List Expression → List String
  | [] => []
  | a :: rest => names a ++ namesOf rest

end

/-! ## Laws -/

theorem names_between (a low high : Expression) :
    names (between a low high) = names a ++ names low ++ (names a ++ names high) := by
  rw [between, names, names, names]

end SalesLedger.Sql.Expression
