import SalesLedger.Decimal.Signed64

/-!
# JSON values

A JSON value with its numbers kept as they were written: a token without point or exponent that
fits 64 bits is a whole number, every other number is a double. The fields of an object are sorted
by key and no key occurs twice, so two objects with the same fields are the same value.

Main statements: `get?_put_self` and `get?_put_of_ne`, a field reads as it was last written and
writing one field leaves the others.
-/

namespace SalesLedger

/-- A JSON value. The keys of an object are ascending. -/
inductive Json where
  | null
  | bool (b : Bool)
  | integer (n : Int)
  | real (x : Float)
  | text (s : String)
  | array (items : List Json)
  | object (fields : List (String × Json))
  deriving Inhabited

namespace Json

/-- The fields of an object, ascending by key. -/
abbrev Fields := List (String × Json)

/-- The value under a key. -/
def Fields.get? (key : String) : Fields → Option Json
  | [] => none
  | (k, v) :: rest => if k = key then some v else get? key rest

/-- Writes a field, in place of one with the same key. -/
def Fields.put (key : String) (value : Json) : Fields → Fields
  | [] => [(key, value)]
  | (k, v) :: rest =>
    if k = key then (key, value) :: rest
    else if key < k then (key, value) :: (k, v) :: rest
    else (k, v) :: put key value rest

/-- The fields written one after the other. -/
def Fields.ofList (fields : List (String × Json)) : Fields :=
  fields.foldl (fun acc f => acc.put f.1 f.2) []

/-- An object with the given fields. -/
def ofFields (fields : List (String × Json)) : Json :=
  .object (Fields.ofList fields)

/-- A double, where JSON can write it. -/
def ofFloat (x : Float) : Json :=
  if x.isFinite then .real x else .null

/-- A text that may be absent. -/
def ofText? : Option String → Json
  | some s => .text s
  | none => .null

/-- The value under a key of an object. -/
def field? (key : String) : Json → Option Json
  | .object fields => Fields.get? key fields
  | _ => none

/-- The characters of a text value. -/
def text? : Json → Option String
  | .text s => some s
  | _ => none

/-- A number as a double. -/
def float? : Json → Option Float
  | .integer n => some (Float.ofInt n)
  | .real x => some x
  | _ => none

/-- A whole number between -2^63 and 2^63 - 1. -/
def integer? : Json → Option Int
  | .integer n => if Fits64 n then some n else none
  | _ => none

def isNull : Json → Bool
  | .null => true
  | _ => false

/-! ## Laws of fields -/

namespace Fields

@[simp] theorem get?_nil (key : String) : get? key [] = none := rfl

theorem get?_put_self (key : String) (value : Json) (fields : Fields) :
    (fields.put key value).get? key = some value := by
  induction fields with
  | nil => simp [put, get?]
  | cons f rest ih =>
    obtain ⟨k, v⟩ := f
    by_cases hk : k = key
    · simp [put, get?, hk]
    · by_cases hlt : key < k
      · simp [put, get?, hk, hlt]
      · simp [put, get?, hk, hlt, ih]

theorem get?_put_of_ne {key other : String} (h : other ≠ key) (value : Json) (fields : Fields) :
    (fields.put key value).get? other = fields.get? other := by
  induction fields with
  | nil => simp [put, get?, Ne.symm h]
  | cons f rest ih =>
    obtain ⟨k, v⟩ := f
    by_cases hk : k = key
    · subst hk
      simp [put, get?, Ne.symm h]
    · by_cases hlt : key < k
      · simp [put, get?, hk, hlt, Ne.symm h]
      · simp only [put, hk, hlt, if_false, get?, ih]

end Fields

end Json

end SalesLedger
