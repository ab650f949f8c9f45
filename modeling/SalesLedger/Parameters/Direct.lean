import SalesLedger.Json.Skip
import SalesLedger.Json.Mismatch
import SalesLedger.Parameters.Normalize

/-!
# Parameter sets straight from text

The reader of a parameter set from JSON text that never builds a value it does not need: unknown
fields are passed over, and a known one may occur only once. A list is read by position, in the
order of the keys.
-/

namespace SalesLedger.ParameterSet

open Json

/-- What a message calls the thing that is read. -/
def expected : String := "struct RawParameterSet"

/-- Where an object that repeats a key is left: after the key and blanks, and after a closing
brace if one follows at once. -/
def afterRepeated (cs : List Char) : List Char :=
  match skipBlank cs with
  | [] => []
  | c :: rest => if c.toNat == 0x7d then rest else c :: rest

/-- The known fields of an object, with a bound on their number. -/
def readFields : Nat → List (String × Json) → KeyAhead →
    Except Stop (List (String × Json) × List Char)
  | _, found, .finished rest => .ok (found, rest)
  | 0, _, .key rest => .error (.at .tooDeep rest)
  | fuel + 1, found, .key rest => do
    let (key, rest) ← Quoted.read rest
    if keys.contains key then
      if (found.lookup key).isSome then throw (.before (.duplicateField key) (afterRepeated rest))
      let (v, rest) ← value (stepBound rest) (depthLimit - 1) (← colon rest)
      readFields fuel ((key, v) :: found) (← nextKey rest)
    else
      let rest ← colon rest
      let rest ← skipValue (stepBound rest) rest
      readFields fuel found (← nextKey rest)

/-- The end of a list that holds no more than it should. -/
def listEnd (cs : List Char) : Except Stop (List Char) :=
  match skipBlank cs with
  | [] => .error (.before .eofList [])
  | c :: rest =>
    if c == ']' then .ok rest
    else if c == ',' then
      match skipBlank rest with
      | [] => .error (.before .trailingCharacters [])
      | d :: rest =>
        if d == ']' then .error (.at .trailingComma (d :: rest))
        else .error (.at .trailingCharacters (d :: rest))
    else .error (.at .trailingCharacters (c :: rest))

/-- The next item of a list, or nothing at its end. -/
def nextItem (first : Bool) (cs : List Char) : Except Stop (Option Json × List Char) :=
  match skipBlank cs with
  | [] => .error (.before .eofList [])
  | c :: rest => do
    if c == ']' then pure (none, c :: rest)
    else if first then
      let (v, rest) ← value (stepBound cs) (depthLimit - 1) (c :: rest)
      pure (some v, rest)
    else if c == ',' then
      match skipBlank rest with
      | [] => throw (.before .eofValue [])
      | d :: rest =>
        if d == ']' then throw (.at .trailingComma (d :: rest))
        let (v, rest) ← value (stepBound cs) (depthLimit - 1) (d :: rest)
        pure (some v, rest)
    else throw (.at .expectedItemEnd (c :: rest))

/-- The items of a list under the given keys. -/
def readItems (first : Bool) : List String → List Char →
    Except Stop (List (String × Json) × List Char)
  | [], cs => do pure ([], ← listEnd cs)
  | key :: more, cs => do
    match ← nextItem first cs with
    | (none, rest) => pure ([], ← listEnd rest)
    | (some v, rest) =>
      let (found, rest) ← readItems false more rest
      pure ((key, v) :: found, rest)

/-- A value that is no parameter set: it is read, to be named in the message. -/
def refuse (c : Char) (rest : List Char) : Except Stop Stop := do
  match constant? c with
  | some (letters, v) =>
    let rest ← word letters rest
    pure (.before (.wrongType (describe v) expected) rest)
  | none =>
    if c == '-' then
      let (v, rest) ← Numeral.read false rest
      pure (.before (.wrongType (describe v) expected) rest)
    else if Text.isDigit c then
      let (v, rest) ← Numeral.read true (c :: rest)
      pure (.before (.wrongType (describe v) expected) rest)
    else if c == '"' then
      let (s, rest) ← Quoted.read rest
      pure (.before (.wrongType (describe (.text s)) expected) rest)
    else pure (.at .expectedValue (c :: rest))

/-- A parameter set at the start of a text. -/
def readValue (cs : List Char) : Except Stop (ParameterSet × List Char) :=
  match skipBlank cs with
  | [] => .error (.before .eofValue [])
  | c :: rest => do
    if c.toNat == 0x7b then
      let (found, rest) ← readFields (cs.length + 1) [] (← firstKey rest)
      pure (ofValues fun key => found.lookup key, rest)
    else if c == '[' then
      let (found, rest) ← readItems true keys rest
      pure (ofValues fun key => found.lookup key, rest)
    else throw (← refuse c rest)

/-- The parameter set that a JSON text asks for. -/
def ofText (s : String) : Except SyntaxError ParameterSet :=
  let cs := s.toList
  match (do
    let (p, rest) ← readValue cs
    ended rest
    pure p : Except Stop ParameterSet) with
  | .ok p => .ok p
  | .error stop => .error (stop.toError cs)

end SalesLedger.ParameterSet
