import SalesLedger.Sql.Expression.Basic
import SalesLedger.Sql.Source

/-!
# Reading expressions

Expressions as they are written. Operators bind by level, from `OR` at the loosest to a sign at
the tightest, and those of one level group from the left. A bare word is a column, unless it is a
value of its own or a function with its arguments.

Main statements: `equality_le_symbolic`, no operator written in marks binds looser than equality
does, so that words join what marks compare, and `oneOf_nil`, nothing is one of no values.
-/

namespace SalesLedger.Sql.Expression

open Source (next? after? afterAll? afterSymbol? afterSymbols?)

/-! ## Numbers -/

/-- The value of hexadecimal digits in 64 bits with a sign. -/
def ofHex (cs : List Char) : Int :=
  (cs.foldl (fun n c => n * 16 + digit c) (0 : Int)).bmod 0x10000000000000000
where
  /-- The value of a hexadecimal digit. -/
  digit (c : Char) : Int :=
    match Text.digit? c with
    | some d => d
    | none => ((Text.lowerLetter c).toNat : Int) - 0x57

/-- The cell of a number: whole where it shows neither point nor exponent and fits 64 bits. -/
def ofNumber (s : String) : Cell :=
  match s.toList with
  | '0' :: x :: rest => if x == 'x' || x == 'X' then .integer (ofHex rest) else decimal s
  | _ => decimal s
where
  /-- A number to base ten. -/
  decimal (s : String) : Cell :=
    match Affinity.numberOf (.text s) with
    | .text _ => .real (Numeral.read s.toList).value
    | c => c

/-- The cell of a number behind a minus sign. -/
def ofNegative (s : String) : Cell :=
  match Affinity.numberOf (.text ("-" ++ s)) with
  | .text _ => Arithmetic.minus.apply (.integer 0) (ofNumber s)
  | c => c

/-- The bytes that pairs of hexadecimal digits spell. -/
def ofPairs : List Char → List UInt8
  | a :: b :: rest => UInt8.ofNat (ofHex [a, b]).toNat :: ofPairs rest
  | _ => []

/-! ## Words -/

/-- A word that is a value of its own. -/
def constant? (w : String) : Option Expression :=
  [("null", literal .null), ("true", truth true), ("false", truth false),
    ("current_date", call "current_date" []), ("current_time", call "current_time" []),
    ("current_timestamp", call "current_timestamp" [])].lookup w

/-- A function with arguments. Some functions look at their arguments one after the other. -/
def ofCall (name : String) (args : List Expression) : Expression :=
  match name, args with
  | "coalesce", a :: b :: rest => first (a :: b :: rest)
  | "ifnull", [a, b] => first [a, b]
  | "iif", [a, b, c] => choose a b c
  | "likely", [a] | "unlikely", [a] | "likelihood", [a, _] => first [a]
  | _, _ => call name args

mutual

/-- Whether an expression needs neither row nor function. -/
def isConstant : Expression → Bool
  | literal _ | truth _ => true
  | column _ | quoted _ | call _ _ | first _ | row _ => false
  | arithmetic _ a b | bits _ a b | concat a b | compare _ a b | identical a b | both a b
  | either a b => isConstant a && isConstant b
  | inverted a | not a | isTruth a _ | cast a _ | collate a _ | unturned a => isConstant a
  | among a items => isConstant a && areConstant items
  | choose c a b => isConstant c && isConstant a && isConstant b
  | compareRows _ as bs | identicalRows as bs => areConstant as && areConstant bs
  | withinRows as lows highs => areConstant as && areConstant lows && areConstant highs

/-- Whether some expressions need neither row nor function. -/
def areConstant : List Expression → Bool
  | [] => true
  | a :: rest => isConstant a && areConstant rest

end

/-- Whether a value is one of some. One that is constant alone is compared with it. -/
def oneOf (a : Expression) (items : List Expression) : Expression :=
  match a, items with
  | _, [] => truth false
  | row _, _ => among a items
  | _, [b] => if isConstant b then compare .equal a (unturned b) else among a [b]
  | _, _ => among a items

/-! ## Operators -/

/-- An operator between two expressions. -/
structure Operator where
  /-- The greater the level, the tighter it binds. -/
  level : Nat
  make : Expression → Expression → Expression

/-- The level of comparisons for equality, that of collations, and that of a sign. -/
def equality : Nat := 4
def naming : Nat := 10
def tightest : Nat := 11

/-- The operators that are written in marks. Those that others begin with come after them. -/
def symbolic : List (String × Operator) :=
  [("==", ⟨equality, comparison .equal⟩), ("=", ⟨equality, comparison .equal⟩),
    ("!=", ⟨equality, comparison .different⟩), ("<>", ⟨equality, comparison .different⟩),
    ("<=", ⟨5, comparison .atMost⟩), ("<<", ⟨6, bits .left⟩), ("<", ⟨5, comparison .less⟩),
    (">=", ⟨5, comparison .atLeast⟩), (">>", ⟨6, bits .right⟩), (">", ⟨5, comparison .greater⟩),
    ("||", ⟨9, concat⟩), ("|", ⟨6, bits .either⟩), ("&", ⟨6, bits .both⟩),
    ("+", ⟨7, arithmetic .plus⟩), ("->>", ⟨9, fun a b => call "->>" [a, b]⟩),
    ("->", ⟨9, fun a b => call "->" [a, b]⟩), ("-", ⟨7, arithmetic .minus⟩),
    ("*", ⟨8, arithmetic .times⟩), ("/", ⟨8, arithmetic .quotient⟩),
    ("%", ⟨8, arithmetic .remainder⟩)]

/-- The operators that are written in words. -/
def worded : List (List String × Operator) :=
  let other (a b : Expression) := not (isSame a b)
  [(["or"], ⟨1, either⟩), (["and"], ⟨2, conjunction⟩),
    (["is", "not", "distinct", "from"], ⟨equality, isSame⟩), (["is", "not"], ⟨equality, other⟩),
    (["is", "distinct", "from"], ⟨equality, other⟩), (["is"], ⟨equality, isSame⟩)]

/-- The operator that a text begins with, and what follows it. -/
def operator? (cs : List Char) : Option (Operator × List Char) :=
  match symbolic.findSome? fun (marks, op) => (afterSymbols? marks cs).map fun r => (op, r) with
  | some found => some found
  | none => worded.findSome? fun (ws, op) => (afterAll? ws cs).map fun r => (op, r)

/-- A test of one expression that has no other side, and what follows it. -/
def test? (cs : List Char) : Option ((Expression → Expression) × List Char) :=
  let missing (a : Expression) := identical a (literal .null)
  match after? "isnull" cs with
  | some rest => some (missing, rest)
  | none =>
    ((after? "notnull" cs).or (afterAll? ["not", "null"] cs)).map fun rest =>
      (fun a => not (missing a), rest)

/-- A test that may be turned around by a word before it. -/
def turned (cs : List Char) : (Expression → Expression) × List Char :=
  match after? "not" cs with
  | some rest => (not, rest)
  | none => (id, cs)

/-- The column behind a table's name, and what follows it. -/
def qualified? (cs : List Char) : Option (Expression × List Char) := do
  let (_, rest) ← Source.name? cs
  let (n, rest) ← Source.name? (← afterSymbol? '.' rest)
  match (afterSymbol? '.' rest).bind Source.name? with
  | some (n, rest) => pure (column n, rest)
  | none => pure (column n, rest)

/-- The function whose arguments stand in brackets behind its name, and what follows the opening
bracket. -/
def function? (cs : List Char) : Option (String × List Char) := do
  match next? cs with
  | some (.word n, rest) | some (.name n, rest) =>
    let rest ← afterSymbol? '(' rest
    if ["not", "in", "and", "or", "case", "when", "then", "else"].contains (Text.lowerAscii n) then
      none
    else pure (Text.lowerAscii n, rest)
  | _ => none

/-! ## Reading -/

mutual

/-- An expression whose operators bind at least as tightly as a level, and what follows it. -/
def operand? (fuel level : Nat) (cs : List Char) : Option (Expression × List Char) :=
  match fuel with
  | 0 => none
  | fuel + 1 => do
    let (a, rest) ← simple? fuel cs
    continued? fuel level a rest

/-- An expression with the operators that follow it. -/
def continued? (fuel level : Nat) (a : Expression) (cs : List Char) :
    Option (Expression × List Char) :=
  match fuel with
  | 0 => none
  | fuel + 1 =>
    match operator? cs with
    | some (op, rest) =>
      if op.level < level then some (a, cs)
      else do
        let (b, rest) ← operand? fuel (op.level + 1) rest
        continued? fuel level (op.make a b) rest
    | none =>
      match after? "collate" cs with
      | some rest =>
        if naming < level then some (a, cs)
        else do
          let (n, rest) ← Source.name? rest
          continued? fuel level (collate a (← Collation.ofName? n)) rest
      | none =>
        if equality < level then some (a, cs)
        else
          match test? cs with
          | some (make, rest) => continued? fuel level (make a) rest
          | none =>
            match predicate? fuel a (turned cs).2 with
            | some (p, rest) => continued? fuel level ((turned cs).1 p) rest
            | none => some (a, cs)

/-- A test of one expression by others. -/
def predicate? (fuel : Nat) (a : Expression) (cs : List Char) :
    Option (Expression × List Char) :=
  match fuel with
  | 0 => none
  | fuel + 1 =>
    match Source.word? cs with
    | some ("between", rest) => do
      let (low, rest) ← operand? fuel equality rest
      let (high, rest) ← operand? fuel (equality + 1) (← after? "and" rest)
      pure (within a low high, rest)
    | some ("in", rest) => do
      let (items, rest) ← arguments? fuel (← afterSymbol? '(' rest)
      pure (oneOf a items, rest)
    | some ("like", rest) => do
      let (p, rest) ← operand? fuel (equality + 1) rest
      match after? "escape" rest with
      | some rest =>
        let (e, rest) ← operand? fuel (equality + 1) rest
        pure (call "like" [p, a, e], rest)
      | none => pure (call "like" [p, a], rest)
    | some (w, rest) =>
      if w = "glob" ∨ w = "match" then do
        let (p, rest) ← operand? fuel (equality + 1) rest
        pure (call w [p, a], rest)
      else none
    | none => none

/-- An expression without operators after it. -/
def simple? (fuel : Nat) (cs : List Char) : Option (Expression × List Char) :=
  match fuel with
  | 0 => none
  | fuel + 1 =>
    match qualified? cs, function? cs, next? cs with
    | some found, _, _ => some found
    | none, some ("cast", rest), _ => do
      let (a, rest) ← operand? fuel 0 rest
      let (type, rest) := Source.type (← after? "as" rest)
      pure (cast a (Affinity.ofDeclared (String.ofList type)), ← afterSymbol? ')' rest)
    | none, some (f, rest), _ => do
      let (args, rest) ← arguments? fuel (Source.skip "distinct" rest)
      pure (ofCall f args, rest)
    | none, none, some (.number s, rest) => some (literal (ofNumber s), rest)
    | none, none, some (.literal s, rest) => some (literal (.text s), rest)
    | none, none, some (.bytes s, rest) => some (literal (.blob (ofPairs s.toList)), rest)
    | none, none, some (.name n, rest) => some (quoted n, rest)
    | none, none, some (.symbol s, rest) =>
      if s == '(' then do
        let (items, rest) ← arguments? fuel rest
        match items with
        | [a] => pure (a, rest)
        | items => pure (row items, rest)
      else
        match s, next? rest with
        | '-', some (.number n, behind) => some (literal (ofNegative n), behind)
        | '-', _ => (operand? fuel tightest rest).map fun (a, rest) => (negate a, rest)
        | '+', _ => (operand? fuel tightest rest).map fun (a, rest) => (unturned a, rest)
        | '~', _ => (operand? fuel tightest rest).map fun (a, rest) => (inverted a, rest)
        | _, _ => none
    | none, none, some (.word w, rest) =>
      let w' := Text.lowerAscii w
      if w' = "not" then do
        let (a, rest) ← operand? fuel equality rest
        pure (not a, rest)
      else if w' = "case" then
        match after? "when" rest with
        | some _ => branches? fuel none rest
        | none => do
          let (subject, rest) ← operand? fuel 0 rest
          branches? fuel (some subject) rest
      else
        match constant? w' with
        | some e => some (e, rest)
        | none => some (column w, rest)
    | _, _, _ => none

/-- Arguments behind an opening bracket, up to the closing one. -/
def arguments? (fuel : Nat) (cs : List Char) : Option (List Expression × List Char) :=
  match fuel with
  | 0 => none
  | fuel + 1 =>
    match afterSymbol? ')' cs with
    | some rest => some ([], rest)
    | none => do
      let (a, rest) ← operand? fuel 0 cs
      match afterSymbol? ',' rest with
      | some rest =>
        let (more, rest) ← arguments? fuel rest
        pure (a :: more, rest)
      | none => pure ([a], ← afterSymbol? ')' rest)

/-- The branches of a choice, up to its end. -/
def branches? (fuel : Nat) (subject? : Option Expression) (cs : List Char) :
    Option (Expression × List Char) :=
  match fuel with
  | 0 => none
  | fuel + 1 =>
    match after? "when" cs with
    | some rest => do
      let (c, rest) ← operand? fuel 0 rest
      let (a, rest) ← operand? fuel 0 (← after? "then" rest)
      let (b, rest) ← branches? fuel subject? rest
      let condition :=
        match subject? with
        | some s => comparison .equal s c
        | none => c
      pure (choose condition a b, rest)
    | none =>
      match after? "else" cs with
      | some rest => do
        let (b, rest) ← operand? fuel 0 rest
        pure (b, ← after? "end" rest)
      | none => (after? "end" cs).map fun rest => (literal .null, rest)

end

/-- The expression that a text spells from end to end. -/
def ofText? (s : String) : Option Expression :=
  let cs := s.toList
  match operand? (4 * cs.length + 8) 0 cs with
  | some (a, rest) => if Source.isEnd rest then some a else none
  | none => none

/-- The expression without operators around it that a text begins with, and what follows it. -/
def term? (cs : List Char) : Option (Expression × List Char) :=
  simple? (4 * cs.length + 8) cs

/-! ## Laws -/

theorem equality_le_symbolic : ∀ op ∈ symbolic, equality ≤ op.2.level := by
  simp [symbolic, equality]

theorem oneOf_nil (a : Expression) : oneOf a [] = truth false := by
  cases a <;> rfl

end SalesLedger.Sql.Expression
