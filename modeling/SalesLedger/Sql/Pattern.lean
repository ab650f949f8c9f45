import SalesLedger.Text.Bytes

/-!
# Patterns

Texts compared with patterns. In the one kind a percent sign stands for any text and a low line
for any character, and the case of the letters A to Z does not count. In the other a star stands
for any text, a question mark for any character and a set in brackets for one of its characters.

A pattern is read into pieces, and the pieces are gone through from the last one on: beside each
place of the text stands whether the pieces so far fit what follows that place. So a pattern takes
no longer than its length times that of the text. Characters are given by their numbers.

Main statements: `like_any` and `glob_any`, the pattern for any text fits every text.
-/

namespace SalesLedger.Sql.Pattern

/-- A piece of a pattern. -/
inductive Piece where
  /-- Any text. -/
  | anything
  /-- A character that a test allows. -/
  | one (fits : Nat → Bool)
  /-- What no text fits. -/
  | never

/-! ## Matching -/

/-- Where the texts begin that end in a fitting one: at a place itself or anywhere behind it. -/
def onwards : List Bool → List Bool
  | [] => []
  | b :: bs =>
    match onwards bs with
    | [] => [b]
    | c :: rest => (b || c) :: c :: rest

/-- Beside each place of a text whether a character that fits is followed by what fitted behind
it. -/
def before (fits : Nat → Bool) : List Nat → List Bool → List Bool
  | c :: cs, _ :: next :: rest => (fits c && next) :: before fits cs (next :: rest)
  | _, rest => rest.map fun _ => false

/-- Beside each place of a text whether pieces fit what follows it. -/
def places (text : List Nat) : List Piece → List Bool
  | [] => text.map (fun _ => false) ++ [true]
  | .anything :: ps => onwards (places text ps)
  | .one fits :: ps => before fits text (places text ps)
  | .never :: ps => (places text ps).map fun _ => false

def fits (ps : List Piece) (text : List Nat) : Bool :=
  (places text ps).head?.getD false

/-! ## Percent signs and low lines -/

/-- A letter A to Z in lower case, by number; any other number as it is. -/
def lowerNumber (n : Nat) : Nat :=
  if 0x41 ≤ n ∧ n ≤ 0x5a then n + 0x20 else n

/-- The character itself, in any case of a letter. -/
def letter (n : Nat) : Piece :=
  .one fun m => lowerNumber m == lowerNumber n

/-- The pieces of a pattern of percent signs and low lines. A character behind the escape stands
for itself. -/
def likePieces (escape : Option Nat) : List Nat → List Piece
  | [] => []
  | p :: ps =>
    if escape = some p then
      match ps with
      | q :: ps => letter q :: likePieces escape ps
      | [] => [.never]
    else if p = '%'.toNat then .anything :: likePieces escape ps
    else if p = '_'.toNat then .one (fun _ => true) :: likePieces escape ps
    else letter p :: likePieces escape ps

/-- Whether a text fits a pattern of percent signs and low lines. -/
def like (escape : Option Nat) (pattern text : List Nat) : Bool :=
  fits (likePieces escape pattern) text

/-! ## Stars, question marks and sets -/

/-- The test of a set, of which so much is read, and the pattern behind the set. `low` is the
character that a range may begin with. -/
def setFrom? (seen : Nat → Bool) (low : Option Nat) : List Nat → Option ((Nat → Bool) × List Nat)
  | [] => none
  | [p] => if p = ']'.toNat then some (seen, []) else none
  | p :: q :: ps =>
    if p = ']'.toNat then some (seen, q :: ps)
    else if p = '-'.toNat ∧ q ≠ ']'.toNat ∧ low.isSome then
      setFrom? (fun c => seen c || (low.getD 0 ≤ c && c ≤ q)) none ps
    else setFrom? (fun c => seen c || c == p) (some p) (q :: ps)

/-- The test of a set behind its opening bracket, and the pattern behind the set. A caret turns the
set around, and a closing bracket at its start belongs to it. -/
def set? (ps : List Nat) : Option ((Nat → Bool) × List Nat) :=
  let (inverted, ps) := if ps.head? = some '^'.toNat then (true, ps.drop 1) else (false, ps)
  let set :=
    if ps.head? = some ']'.toNat then setFrom? (fun c => c == ']'.toNat) none (ps.drop 1)
    else setFrom? (fun _ => false) none ps
  set.map fun (seen, rest) => (fun c => seen c != inverted, rest)

/-- The pieces of a pattern of stars, question marks and sets, within so many characters. -/
def globPieces : Nat → List Nat → List Piece
  | 0, _ => []
  | _, [] => []
  | fuel + 1, p :: ps =>
    if p = '*'.toNat then .anything :: globPieces fuel ps
    else if p = '?'.toNat then .one (fun _ => true) :: globPieces fuel ps
    else if p = '['.toNat then
      match set? ps with
      | some (fits, rest) => .one fits :: globPieces fuel rest
      | none => [.never]
    else .one (fun c => c == p) :: globPieces fuel ps

/-- Whether a text fits a pattern of stars, question marks and sets. -/
def glob (pattern text : List Nat) : Bool :=
  fits (globPieces pattern.length pattern) text

/-! ## Laws -/

theorem head?_onwards (bs : List Bool) : (onwards (bs ++ [true])).head? = some true := by
  induction bs with
  | nil => rfl
  | cons b bs ih =>
    rw [List.cons_append, onwards]
    cases h : onwards (bs ++ [true]) with
    | nil => simp [h] at ih
    | cons c rest =>
      have hc : c = true := by simpa [h] using ih
      simp [hc]

theorem fits_anything (text : List Nat) : fits [.anything] text = true := by
  rw [fits, places, places, head?_onwards]
  rfl

theorem like_any (text : List Nat) : like none ['%'.toNat] text = true :=
  fits_anything text

theorem glob_any (text : List Nat) : glob ['*'.toNat] text = true :=
  fits_anything text

/-- The numbers of the characters of a text. -/
def ofText (s : String) : List Nat := s.toList.map Char.toNat

example : glob (ofText "[0-9][0-9]-*") (ofText "07-x") = true := by decide +kernel

example : glob (ofText "[^a]?") (ofText "ab") = false := by decide +kernel

example : like (some '!'.toNat) (ofText "A!%_%") (ofText "a%bc") = true := by decide +kernel

end SalesLedger.Sql.Pattern
