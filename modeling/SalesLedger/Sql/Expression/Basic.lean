import SalesLedger.Sql.Builtin
import SalesLedger.Sql.Scalar

/-!
# Expressions

Values worked out from the columns of one row, as column declarations use them. A comparison turns
and folds its sides as the columns in it say.

An expression has a value, or a fault for which there is none; and as a condition it holds or does
not, where what is unknown counts as one of the two. A condition is looked at only as far as it has
to be: where its beginning decides, the rest cannot fail.

Main statements: `eval_between`, a value lies between two others when it is at least the one and at
most the other, `eval_collate`, a collation changes no value, and `holds_both_of_fails`, a condition
whose first part does not hold is not looked at any further.
-/

namespace SalesLedger.Sql

/-- An expression. -/
inductive Expression where
  | literal (c : Cell)
  /-- The words for what is true and what is false. -/
  | truth (b : Bool)
  | column (name : String)
  /-- A name in double quotes: a column, or else a text. -/
  | quoted (name : String)
  | arithmetic (op : Arithmetic) (a b : Expression)
  | bits (op : BitOperation) (a b : Expression)
  | inverted (a : Expression)
  | concat (a b : Expression)
  | compare (op : Comparison) (a b : Expression)
  /-- Whether two values are equal or both are nothing. -/
  | identical (a b : Expression)
  /-- Whether a value has a truth. -/
  | isTruth (a : Expression) (b : Bool)
  | both (a b : Expression)
  | either (a b : Expression)
  | not (a : Expression)
  /-- Whether a value is one of some, compared as the value says. -/
  | among (a : Expression) (items : List Expression)
  | choose (condition result otherwise : Expression)
  | cast (a : Expression) (affinity : Affinity)
  | collate (a : Expression) (c : Collation)
  /-- A value that does not turn what it is compared with. -/
  | unturned (a : Expression)
  /-- The first of some values that there is. -/
  | first (items : List Expression)
  | call (function : String) (args : List Expression)
  /-- Several values that are compared as one. -/
  | row (items : List Expression)
  /-- Whether several values compare with as many: the first pair that is not equal decides. -/
  | compareRows (op : Comparison) (as bs : List Expression)
  /-- Whether several values are the same as others, each pair equal or nothing. -/
  | identicalRows (as bs : List Expression)
  /-- Whether several values lie between as many. -/
  | withinRows (as lows highs : List Expression)

/-- A column of a row as an expression sees it. -/
structure Field where
  value : Value
  affinity : Affinity
  collation : Collation

/-- What an expression may refer to. -/
structure Scope where
  field? : String → Option Field
  purpose : Purpose
  session : Session := {}

/-- What an expression means: its value, and whether it holds as a condition, where what is unknown
counts as given. -/
structure Meaning where
  value : Except ValueFault Value
  holds : Bool → Except ValueFault Bool

namespace Meaning

def ofValue (v : Except ValueFault Value) : Meaning :=
  ⟨v, fun unknownAs => v.map fun v => (truth? v.cell).getD unknownAs⟩

def ofCell (c : Cell) : Meaning := ofValue (.ok (.ofCell c))

/-- What is made of the cells of two meanings. -/
def combine (f : Cell → Cell → Cell) (x y : Meaning) : Meaning :=
  ofValue do pure (.ofCell (f (← x.value).cell (← y.value).cell))

/-- What is made of the cell of a meaning. -/
def change (f : Cell → Cell) (x : Meaning) : Meaning :=
  ofValue do pure (.ofCell (f (← x.value).cell))

end Meaning

namespace Expression

/-! ## Shorthands -/

/-- Whether a value lies between two others. -/
def between (a low high : Expression) : Expression :=
  both (compare .atLeast a low) (compare .atMost a high)

/-- The number with the other sign. -/
def negate (a : Expression) : Expression :=
  arithmetic .minus (literal (.integer 0)) a

/-- A comparison of two values, or of several with as many. -/
def comparison (op : Comparison) (a b : Expression) : Expression :=
  match a, b with
  | row as, row bs => compareRows op as bs
  | _, _ => compare op a b

/-- Whether a value, or several, lie between others. -/
def within (a low high : Expression) : Expression :=
  match a, low, high with
  | row as, row lows, row highs => withinRows as lows highs
  | _, _, _ => between a low high

/-- Whether two values, or as many, are the same; beside a word for the truth, whether a value has
it. -/
def isSame (a b : Expression) : Expression :=
  match a, b with
  | _, truth b => isTruth a b
  | row as, row bs => identicalRows as bs
  | _, _ => identical a b

/-- Two conditions of which both have to hold. A zero decides without the other. -/
def conjunction (a b : Expression) : Expression :=
  match a, b with
  | literal (.integer 0), _ | _, literal (.integer 0) => literal (.integer 0)
  | _, _ => both a b

/-! ## How expressions compare -/

/-- The affinity that an expression has of its own. -/
def affinity? (scope : Scope) : Expression → Option Affinity
  | column n | quoted n => (scope.field? n).map Field.affinity
  | cast _ a => some a
  | collate a _ => affinity? scope a
  | _ => none

mutual

/-- Whether a collation is named somewhere in an expression. -/
def hasNamed : Expression → Bool
  | collate _ _ => true
  | arithmetic _ a b | bits _ a b | concat a b | compare _ a b | identical a b | both a b
  | either a b => hasNamed a || hasNamed b
  | inverted a | not a | isTruth a _ | cast a _ | unturned a => hasNamed a
  | among a items => hasNamed a || haveNamed items
  | choose c a b => hasNamed c || hasNamed a || hasNamed b
  | call _ args | first args | row args => haveNamed args
  | compareRows _ as bs | identicalRows as bs => haveNamed as || haveNamed bs
  | withinRows as lows highs => haveNamed as || haveNamed lows || haveNamed highs
  | literal _ | truth _ | column _ | quoted _ => false

/-- Whether a collation is named in one of some expressions. -/
def haveNamed : List Expression → Bool
  | [] => false
  | a :: rest => hasNamed a || haveNamed rest

end

mutual

/-- The collation of an expression: that of its column, or the first one that is named in it. -/
def collation? (scope : Scope) : Expression → Option Collation
  | column n | quoted n => (scope.field? n).map Field.collation
  | collate _ c => some c
  | cast a _ | unturned a => collation? scope a
  | arithmetic _ a b | bits _ a b | concat a b | compare _ a b | identical a b | both a b
  | either a b =>
    if hasNamed a then collation? scope a else if hasNamed b then collation? scope b else none
  | inverted a | not a | isTruth a _ => if hasNamed a then collation? scope a else none
  | among a items => if hasNamed a then collation? scope a else named? scope items
  | choose c a b =>
    if hasNamed c then collation? scope c
    else if hasNamed a then collation? scope a
    else if hasNamed b then collation? scope b
    else none
  | call _ args | first args | row args => named? scope args
  | compareRows _ as bs | identicalRows as bs =>
    if haveNamed as then named? scope as else named? scope bs
  | withinRows as lows highs =>
    if haveNamed as then named? scope as
    else if haveNamed lows then named? scope lows
    else named? scope highs
  | literal _ | truth _ => none

/-- The first collation that is named in some expressions. -/
def named? (scope : Scope) : List Expression → Option Collation
  | [] => none
  | a :: rest => if hasNamed a then collation? scope a else named? scope rest

end

/-- The collation of a comparison: one that is named comes before that of a column, and the left
side before the right one. -/
def collation (scope : Scope) (a b : Expression) : Collation :=
  (if hasNamed a then collation? scope a
    else if hasNamed b then collation? scope b
    else (collation? scope a).or (collation? scope b)).getD .binary

/-- The collation of a function's arguments: that of the first one that has any. -/
def collationOf (scope : Scope) (args : List Expression) : Collation :=
  (args.findSome? (collation? scope)).getD .binary

/-- How a comparison between two expressions holds. -/
def compared (scope : Scope) (op : Comparison) (a b : Expression) (x y : Cell) : Option Bool :=
  Sql.compare (Affinity.between (affinity? scope a) (affinity? scope b)) (collation scope a b) op
    x y

/-- Whether a cell is one of some, compared as its expression says; they are looked at one after the
other, until one is found. -/
def found (scope : Scope) (a : Expression) (x : Cell) (isUnknown : Bool) :
    List Meaning → Except ValueFault Cell
  | [] => .ok (if isUnknown then .null else .integer 0)
  | m :: rest => do
    let y := (← m.value).cell
    match Sql.compare ((affinity? scope a).getD .blob) ((collation? scope a).getD .binary) .equal
      x y with
    | some true => pure (.integer 1)
    | some false => found scope a x isUnknown rest
    | none => found scope a x true rest

def firstPresent : List Meaning → Except ValueFault Value
  | [] => .ok .null
  | m :: rest => do
    let v ← m.value
    if v.isNull then firstPresent rest else pure v

/-- Whether two values are equal or both are nothing. -/
def areIdentical (scope : Scope) (a b : Expression) (x y : Cell) : Bool :=
  (compared scope .equal a b x y).getD (x = .null && y = .null)

/-- Two expressions that are compared, with what they mean. -/
abbrev Pair := (Expression × Meaning) × (Expression × Meaning)

/-- How a comparison holds between two expressions. -/
def comparedPair (scope : Scope) (op : Comparison) (p : Pair) :
    Except ValueFault (Option Bool) := do
  pure (compared scope op p.1.1 p.2.1 (← p.1.2.value).cell (← p.2.2.value).cell)

/-- Whether all pairs are equal. They are looked at until two differ. -/
def equalPairs (scope : Scope) : List Pair → Except ValueFault (Option Bool)
  | [] => .ok (some true)
  | p :: rest => do
    match ← comparedPair scope .equal p with
    | some true => equalPairs scope rest
    | some false => pure (some false)
    | none => pure (if (← equalPairs scope rest) = some false then some false else none)

/-- Whether pairs are in an order: the first one that is not equal decides, strictly unless it is
the last. -/
def orderedPairs (scope : Scope) (op strict : Comparison) :
    List Pair → Except ValueFault (Option Bool)
  | [] => .ok (some true)
  | [p] => comparedPair scope op p
  | p :: rest => do
    if (← comparedPair scope .equal p) = some true then orderedPairs scope op strict rest
    else comparedPair scope strict p

def comparedPairs (scope : Scope) (op : Comparison) (pairs : List Pair) :
    Except ValueFault (Option Bool) :=
  match op with
  | .equal => equalPairs scope pairs
  | .different => (equalPairs scope pairs).map fun b => b.map Bool.not
  | .less | .atMost => orderedPairs scope op .less pairs
  | .greater | .atLeast => orderedPairs scope op .greater pairs

/-- Whether all pairs are equal or nothing. They are looked at until two differ. -/
def identicalPairs (scope : Scope) : List Pair → Except ValueFault Bool
  | [] => .ok true
  | p :: rest => do
    if areIdentical scope p.1.1 p.2.1 (← p.1.2.value).cell (← p.2.2.value).cell then
      identicalPairs scope rest
    else pure false

/-- The truth that an expression has whatever the row. -/
def known? : Expression → Option Bool
  | literal (.integer n) => some (n ≠ 0)
  | truth b => some b
  | _ => none

/-! ## Meaning -/

/-- The meaning of two conditions of which both have to hold. A part that is known whatever the row
says is not looked at. -/
def meaningOfBoth (a b : Expression) (x y : Meaning) : Meaning where
  value := do
    let v ← x.value
    let w ← y.value
    pure (.ofCell (ofTruth (bothHold (truth? v.cell) (truth? w.cell))))
  holds unknownAs :=
    if known? a = some true ∨ known? b = some false then y.holds unknownAs
    else if known? b = some true ∨ known? a = some false then x.holds unknownAs
    else do if ← x.holds unknownAs then y.holds unknownAs else pure false

/-- The meaning of two conditions of which one has to hold. -/
def meaningOfEither (a b : Expression) (x y : Meaning) : Meaning where
  value := do
    let v ← x.value
    let w ← y.value
    pure (.ofCell (ofTruth (oneHolds (truth? v.cell) (truth? w.cell))))
  holds unknownAs :=
    if known? a = some true ∨ known? b = some false then x.holds unknownAs
    else if known? b = some true ∨ known? a = some false then y.holds unknownAs
    else do if ← x.holds unknownAs then pure true else y.holds unknownAs

/-- A meaning that is looked at when others have been worked out. -/
def meaningBehind (xs : List Meaning) (y : Meaning) : Meaning where
  value := do
    let _ ← xs.mapM Meaning.value
    y.value
  holds unknownAs := do
    let _ ← xs.mapM Meaning.value
    y.holds unknownAs

/-- The meaning of a comparison of several values. -/
def meaningOfRows (scope : Scope) (op : Comparison) (as bs : List Expression)
    (xs ys : List Meaning) : Meaning :=
  .ofValue ((comparedPairs scope op ((as.zip xs).zip (bs.zip ys))).map fun b =>
    .ofCell (ofTruth b))

/-- The meaning of a condition that has not to hold. -/
def meaningOfNot (x : Meaning) : Meaning where
  value := do pure (.ofCell (ofTruth ((truth? (← x.value).cell).map Bool.not)))
  holds unknownAs := do pure (!(← x.holds !unknownAs))

/-- The meaning of a value's truth. A column's usual value knows no words for the truth and compares
with its number. -/
def meaningOfTruth (purpose : Purpose) (b : Bool) (x : Meaning) : Meaning :=
  if purpose = .fallback then x.change fun c => ofTruth (some (c.same (ofTruth (some b))))
  else
    { value := do pure (.ofCell (ofTruth (some (truth? (← x.value).cell = some b))))
      holds := fun _ => do if b then x.holds false else pure (!(← x.holds true)) }

mutual

def meaning (scope : Scope) : Expression → Meaning
  | literal c => .ofCell c
  | truth b => .ofCell (ofTruth (some b))
  | column n => .ofValue (.ok (((scope.field? n).map Field.value).getD .null))
  | quoted n => .ofValue (.ok (((scope.field? n).map Field.value).getD (.text n)))
  | arithmetic op a b => .combine op.apply (meaning scope a) (meaning scope b)
  | bits op a b => .combine op.apply (meaning scope a) (meaning scope b)
  | inverted a => (meaning scope a).change Sql.inverted
  | concat a b => .combine Sql.concat (meaning scope a) (meaning scope b)
  | compare op a b =>
    .combine (fun x y => ofTruth (compared scope op a b x y)) (meaning scope a) (meaning scope b)
  | identical a b =>
    .combine (fun x y => ofTruth (some (areIdentical scope a b x y))) (meaning scope a)
      (meaning scope b)
  | isTruth a b => meaningOfTruth scope.purpose b (meaning scope a)
  | both a b => meaningOfBoth a b (meaning scope a) (meaning scope b)
  | either a b => meaningOfEither a b (meaning scope a) (meaning scope b)
  | not a => meaningOfNot (meaning scope a)
  | among a items =>
    .ofValue do
      let x := (← (meaning scope a).value).cell
      pure (.ofCell (← found scope a x (x = .null) (meanings scope items)))
  | choose c a b =>
    .ofValue do
      if ← (meaning scope c).holds false then (meaning scope a).value else (meaning scope b).value
  | cast a affinity =>
    .ofValue do
      let v ← (meaning scope a).value
      pure ⟨Sql.cast affinity v.cell, v.isDocument && affinity = .text⟩
  | collate a _ => meaning scope a
  | unturned a => .ofValue (meaning scope a).value
  | first items => .ofValue (firstPresent (meanings scope items))
  | call f args =>
    .ofValue do
      Builtin.call scope.purpose scope.session (collationOf scope args) f
        (← (meanings scope args).mapM Meaning.value)
  | row _ => .ofCell .null
  | compareRows op as bs => meaningOfRows scope op as bs (meanings scope as) (meanings scope bs)
  | identicalRows as bs =>
    let pairs := (as.zip (meanings scope as)).zip (bs.zip (meanings scope bs))
    .ofValue ((identicalPairs scope pairs).map fun b => .ofCell (ofTruth (some b)))
  | withinRows as lows highs =>
    let xs := meanings scope as
    meaningBehind xs
      (meaningOfBoth (compareRows .atLeast as lows) (compareRows .atMost as highs)
        (meaningOfRows scope .atLeast as lows xs (meanings scope lows))
        (meaningOfRows scope .atMost as highs xs (meanings scope highs)))

def meanings (scope : Scope) : List Expression → List Meaning
  | [] => []
  | a :: rest => meaning scope a :: meanings scope rest

end

def eval (scope : Scope) (a : Expression) : Except ValueFault Value :=
  (meaning scope a).value

/-- Whether an expression holds as a condition, where what is unknown counts as given. -/
def holds (scope : Scope) (unknownAs : Bool) (a : Expression) : Except ValueFault Bool :=
  (meaning scope a).holds unknownAs

/-! ## Laws -/

theorem eval_collate (scope : Scope) (a : Expression) (c : Collation) :
    (collate a c).eval scope = a.eval scope := by
  rw [eval, meaning, eval]

theorem eval_between (scope : Scope) {a low high : Expression} {x y z : Value}
    (hx : a.eval scope = .ok x) (hy : low.eval scope = .ok y) (hz : high.eval scope = .ok z) :
    (between a low high).eval scope =
      .ok (.ofCell (ofTruth (bothHold (compared scope .atLeast a low x.cell y.cell)
        (compared scope .atMost a high x.cell z.cell)))) := by
  rw [eval] at hx hy hz
  rw [between, eval, meaning, meaning, meaning, meaningOfBoth]
  simp only [Meaning.combine, Meaning.ofValue, hx, hy, hz, bind, Except.bind, pure, Except.pure,
    Value.ofCell, truth?_ofTruth]

theorem holds_both_of_fails {scope : Scope} {unknownAs : Bool} {a b : Expression}
    (ha : a.holds scope unknownAs = .ok false) (hk : known? a = none) (hb : known? b = none) :
    (both a b).holds scope unknownAs = .ok false := by
  rw [holds] at ha
  rw [holds, meaning, meaningOfBoth]
  simp only [hk, hb]
  rw [if_neg (by simp), if_neg (by simp), ha]
  rfl

theorem holds_not (scope : Scope) (unknownAs : Bool) (a : Expression) :
    (not a).holds scope unknownAs = (a.holds scope (!unknownAs)).map Bool.not := by
  rw [holds, meaning, meaningOfNot, holds]
  simp only [bind, Except.bind, pure, Except.pure]
  cases (meaning scope a).holds (!unknownAs) <;> rfl

end Expression

end SalesLedger.Sql
