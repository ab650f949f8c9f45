import SalesLedger.Json.Parser

/-!
# Passing over JSON

A reader that wants only some fields passes over the others without building their values. It is
content with more than the reader of values is: numbers have no range, texts may hold halves of
pairs, and values may nest without limit.
-/

namespace SalesLedger.Json

/-! ## Numbers -/

/-- Passes over an exponent, from after its letter. -/
def skipExponent (cs : List Char) : Except Stop (List Char) :=
  let cs :=
    match cs with
    | '+' :: rest => rest
    | '-' :: rest => rest
    | _ => cs
  match cs with
  | [] => .error (.before .invalidNumber [])
  | c :: rest =>
    if Text.isDigit c then .ok (Numeral.skipDigits rest).2
    else .error (.at .invalidNumber (c :: rest))

/-- Passes over an exponent, if there is one. -/
def skipExponent? (cs : List Char) : Except Stop (List Char) :=
  match cs with
  | c :: rest => if Numeral.opensExponent c then skipExponent rest else .ok cs
  | [] => .ok []

/-- Passes over what may follow a whole part. -/
def skipFraction (cs : List Char) : Except Stop (List Char) :=
  match cs with
  | '.' :: rest =>
    let (count, rest) := Numeral.skipDigits rest
    if count = 0 then .error (.at .invalidNumber rest) else skipExponent? rest
  | _ => skipExponent? cs

/-- Passes over a number, from its first digit on. -/
def skipNumber (cs : List Char) : Except Stop (List Char) :=
  match cs with
  | [] => .error (.before .invalidNumber [])
  | c :: rest =>
    match Text.digit? c with
    | none => .error (.at .invalidNumber (c :: rest))
    | some 0 =>
      match rest with
      | d :: _ =>
        if Text.isDigit d then .error (.at .invalidNumber rest) else skipFraction rest
      | [] => .ok []
    | some _ => skipFraction (Numeral.skipDigits rest).2

/-! ## Values -/

/-- Passes over a key and its colon. -/
def skipKey (cs : List Char) : Except Stop (List Char) :=
  match skipBlank cs with
  | [] => .error (.before .eofObject [])
  | c :: rest =>
    if c == '"' then do colon (← Quoted.skip rest)
    else .error (.at .keyNotText (c :: rest))

mutual

/-- Passes over a value, with a bound on the steps. -/
def skipValue : Nat → List Char → Except Stop (List Char)
  | 0, cs => .error (.at .tooDeep cs)
  | fuel + 1, cs =>
    match skipBlank cs with
    | [] => .error (.before .eofValue [])
    | c :: rest =>
      match constant? c with
      | some (letters, _) => word letters rest
      | none =>
        if c == '-' then skipNumber rest
        else if Text.isDigit c then skipNumber (c :: rest)
        else if c == '"' then Quoted.skip rest
        else if c == '[' then
          match skipBlank rest with
          | [] => .error (.before .eofList [])
          | d :: rest => if d == ']' then .ok rest else skipItems fuel (d :: rest)
        else if c.toNat == 0x7b then
          match skipBlank rest with
          | [] => .error (.before .eofObject [])
          | d :: rest => if d.toNat == 0x7d then .ok rest else skipFields fuel (d :: rest)
        else .error (.at .expectedValue (c :: rest))

/-- Passes over the items of an array and its closing bracket. -/
def skipItems : Nat → List Char → Except Stop (List Char)
  | 0, cs => .error (.at .tooDeep cs)
  | fuel + 1, cs => do
    let rest ← skipValue fuel cs
    match skipBlank rest with
    | [] => .error (.before .eofList [])
    | c :: rest =>
      if c == ']' then .ok rest
      else if c == ',' then skipItems fuel rest
      else .error (.at .expectedItemEnd (c :: rest))

/-- Passes over the fields of an object and its closing brace. -/
def skipFields : Nat → List Char → Except Stop (List Char)
  | 0, cs => .error (.at .tooDeep cs)
  | fuel + 1, cs => do
    let rest ← skipValue fuel (← skipKey cs)
    match skipBlank rest with
    | [] => .error (.before .eofObject [])
    | c :: rest =>
      if c.toNat == 0x7d then .ok rest
      else if c == ',' then skipFields fuel rest
      else .error (.at .expectedFieldEnd (c :: rest))

end

end SalesLedger.Json
