import SalesLedger.Sql.Affinity

/-!
# Widths

How much room the cells of a column are taken to need, as its declared type says, in units of four
bytes. What needs less is read sooner, where nothing else decides; sizes are compared by their
logarithms in tenths.

Main statements: `logarithm_of_lt`, a single byte weighs nothing, and `ofText_le`, no text is taken
for longer than a byte can say.
-/

namespace SalesLedger.Sql.Width

/-- The types that are known by name, with the room that they need. -/
def known : List (String × Nat) :=
  [("any", 1), ("blob", 5), ("int", 1), ("integer", 1), ("real", 1), ("text", 5)]

/-- What follows a word for the last time, if the text has the word. -/
def afterLast? (part : List Char) : List Char → Option (List Char)
  | [] => none
  | c :: cs =>
    (afterLast? part cs).or
      (if part.isPrefixOf (c :: cs) then some ((c :: cs).drop part.length) else none)

/-- The text in which a type may say how long its texts are. -/
def lengthText? (cs : List Char) : Option (List Char) :=
  (afterLast? "char".toList cs).or
    (if Affinity.holds "text".toList cs || Affinity.holds "clob".toList cs then none
      else ((afterLast? "blob".toList cs).filter fun rest => rest.head? == some '('))

/-- The first number in a text, as far as it has 31 bits. -/
def firstNumber (cs : List Char) : Nat :=
  let digits := (cs.dropWhile fun c => !Text.isDigit c).takeWhile Text.isDigit
  let n := digits.foldl (fun n c => n * 10 + (Text.digit? c).getD 0) 0
  if n < 0x80000000 then n else 0

/-- The room for so many bytes. -/
def ofLength (n : Nat) : Nat :=
  min 255 (n / 4 + 1)

/-- The room that texts or bytes of a type need. -/
def ofText (cs : List Char) : Nat :=
  ofLength (match lengthText? cs with
    | some rest => firstNumber rest
    | none => 16)

/-- The room that the cells of a declared type need. -/
def ofDeclared (type : String) : Nat :=
  let type := Text.lowerAscii type
  match known.lookup type with
  | some n => n
  | none =>
    match Affinity.ofDeclared type with
    | .blob | .text => if type.isEmpty then 1 else ofText type.toList
    | _ => 1

/-- The logarithm to base two in tenths, from the leading four bits. -/
def logarithm (n : Nat) : Nat :=
  if n < 2 then 0
  else 10 * n.log2 + ([0, 2, 3, 5, 6, 7, 8, 9].getD (n * 8 / (1 <<< n.log2) % 8) 0)

/-- How much a row or a key weighs whose cells need so many units of room. -/
def estimate (units : Nat) : Nat :=
  logarithm (units * 4)

/-! ## Laws -/

theorem ofText_le (cs : List Char) : ofText cs ≤ 255 := Nat.min_le_left _ _

theorem logarithm_of_lt {n : Nat} (h : n < 2) : logarithm n = 0 := if_pos h

end SalesLedger.Sql.Width
