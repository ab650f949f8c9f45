import SalesLedger.Text.Blank
import SalesLedger.Text.Case
import SalesLedger.Text.Similarity

/-!
# Schemas

The columns of a ledger's table, as a caller's names are looked up in them. A name matches a column
that has the same letters in any case; a name that matches none may be close enough to one for a
hint. Whatever is found is a column of the schema.

Main statement: `mem_of_resolve?`, what resolves is in the schema.
-/

namespace SalesLedger

/-- The columns of a table, in the order of its declaration. -/
structure Schema where
  columns : List String
  deriving Repr, DecidableEq

namespace Schema

/-- The column that a name means: the first with the same letters in any case, blanks at the ends
of the name left out. An empty name means none. -/
def resolve? (schema : Schema) (candidate : String) : Option String :=
  let name := Text.trim candidate
  if name = "" then none
  else schema.columns.find? fun c => Text.lower c == Text.lower name

/-- The least score that is close enough for a hint. -/
def hintScore : Float := 0.8

/-- The better of two scored columns, the later one if they are equal. -/
def better (best next : String × Float) : String × Float :=
  if best.2 > next.2 then best else next

/-- The column that a name comes closest to, if any comes close. -/
def closest? (schema : Schema) (candidate : String) : Option String :=
  let name := (Text.lower candidate).toList
  let scored := schema.columns.map fun c => (c, Text.Similarity.score (Text.lower c).toList name)
  match scored.filter fun s => s.2 ≥ hintScore with
  | [] => none
  | first :: rest => some (rest.foldl better first).1

/-- A name as an identifier of a statement: in double quotes, a quote written twice. -/
def quote (name : String) : String :=
  let doubled := name.toList.flatMap fun c => if c == '"' then ['"', '"'] else [c]
  String.ofList ('"' :: (doubled ++ ['"']))

/-! ## Laws -/

theorem mem_of_resolve? {schema : Schema} {candidate column : String}
    (h : schema.resolve? candidate = some column) : column ∈ schema.columns := by
  unfold resolve? at h
  simp only at h
  split at h
  · cases h
  · exact List.mem_of_find?_eq_some h

theorem resolve?_nil (candidate : String) : resolve? ⟨[]⟩ candidate = none := by
  simp [resolve?]

end Schema

end SalesLedger
