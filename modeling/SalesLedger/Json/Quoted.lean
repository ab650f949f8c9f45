import SalesLedger.Json.Fault

/-!
# Reading JSON texts

What stands between two quotes. A backslash and a letter give one character; four digits to base
sixteen give a character by its number, or, for the first half of a pair, half of one, whose other
half has to follow at once.
-/

namespace SalesLedger.Json.Quoted

/-- The value of a digit to base sixteen, in either case. -/
def hexValue? (c : Char) : Option Nat :=
  let n := c.toNat
  if '0'.toNat ≤ n ∧ n ≤ '9'.toNat then some (n - '0'.toNat)
  else if 'a'.toNat ≤ n ∧ n ≤ 'f'.toNat then some (n - 'a'.toNat + 10)
  else if 'A'.toNat ≤ n ∧ n ≤ 'F'.toNat then some (n - 'A'.toNat + 10)
  else none

/-- Four digits to base sixteen. Fewer than four bytes end the text; anything else among the four
is no escape. -/
def hexFour (cs : List Char) : Except Stop (Nat × List Char) :=
  if Text.Utf8.size cs < 4 then .error (.before .eofText [])
  else
    match cs.take 4 |>.mapM hexValue? with
    | some [a, b, c, d] => .ok (((a * 16 + b) * 16 + c) * 16 + d, cs.drop 4)
    | _ => .error ⟨.invalidEscape, cs, 4⟩

/-- The other half of a pair whose first half is `n`. -/
def secondHalf (n : Nat) (cs : List Char) : Except Stop (Char × List Char) :=
  match cs with
  | [] => .error (.before .eofText [])
  | '\\' :: [] => .error (.before .eofText [])
  | '\\' :: 'u' :: rest => do
    let (m, rest) ← hexFour rest
    if 0xdc00 ≤ m ∧ m ≤ 0xdfff then
      pure (Char.ofNat ((n - 0xd800) * 1024 + (m - 0xdc00) + 0x10000), rest)
    else throw (.before .loneSurrogate rest)
  | '\\' :: rest => .error (.at .endOfHexEscape rest)
  | rest => .error (.at .endOfHexEscape rest)

def byNumber (cs : List Char) : Except Stop (Char × List Char) := do
  let (n, rest) ← hexFour cs
  if 0xdc00 ≤ n ∧ n ≤ 0xdfff then throw (.before .loneSurrogate rest)
  else if 0xd800 ≤ n ∧ n ≤ 0xdbff then secondHalf n rest
  else pure (Char.ofNat n, rest)

/-- The character that a letter after a backslash stands for. -/
def letter? (c : Char) : Option Char :=
  if c == '"' then some '"'
  else if c == '\\' then some '\\'
  else if c == '/' then some '/'
  else if c == 'b' then some (Char.ofNat 8)
  else if c == 'f' then some (Char.ofNat 12)
  else if c == 'n' then some '\n'
  else if c == 'r' then some '\r'
  else if c == 't' then some '\t'
  else none

/-- What follows a backslash. -/
def escape (cs : List Char) : Except Stop (Char × List Char) :=
  match cs with
  | [] => .error (.before .eofText [])
  | c :: rest =>
    if c == 'u' then byNumber rest
    else
      match letter? c with
      | some d => .ok (d, rest)
      | none => .error (.at .invalidEscape (c :: rest))

/-- The characters up to the closing quote, with a bound on their number. -/
def chars : Nat → List Char → Except Stop (List Char × List Char)
  | _, [] => .error (.before .eofText [])
  | 0, cs => .error (.before .eofText cs)
  | fuel + 1, c :: cs =>
    if c == '"' then .ok ([], cs)
    else if c == '\\' then do
      let (d, rest) ← escape cs
      let (ds, rest) ← chars fuel rest
      pure (d :: ds, rest)
    else if c.toNat < 0x20 then .error (.at .controlCharacter (c :: cs))
    else do
      let (ds, rest) ← chars fuel cs
      pure (c :: ds, rest)

/-- A text, from after its opening quote. Every character of it takes one from the text at least,
so the bound is never met. -/
def read (cs : List Char) : Except Stop (String × List Char) := do
  let (ds, rest) ← chars cs.length cs
  pure (String.ofList ds, rest)

/-! ## Passing over a text -/

/-- What follows a backslash in a text whose value is not wanted: halves of pairs may stand
alone. -/
def skipEscape (cs : List Char) : Except Stop (List Char) :=
  match cs with
  | [] => .error (.before .eofText [])
  | c :: rest =>
    if c == 'u' then (·.2) <$> hexFour rest
    else if (letter? c).isSome then .ok rest
    else .error (.at .invalidEscape (c :: rest))

/-- Passes over the characters up to the closing quote. -/
def skipChars : Nat → List Char → Except Stop (List Char)
  | _, [] => .error (.before .eofText [])
  | 0, cs => .error (.before .eofText cs)
  | fuel + 1, c :: cs =>
    if c == '"' then .ok cs
    else if c == '\\' then do skipChars fuel (← skipEscape cs)
    else if c.toNat < 0x20 then .error (.before .controlCharacter (c :: cs))
    else skipChars fuel cs

/-- Passes over a text, from after its opening quote. -/
def skip (cs : List Char) : Except Stop (List Char) :=
  skipChars cs.length cs

end SalesLedger.Json.Quoted
