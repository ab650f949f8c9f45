import SalesLedger.Json.Numeral
import SalesLedger.Json.Quoted

/-!
# Reading JSON

The reader of whole JSON texts. It takes the standard's grammar as it is: no comments, no commas
before a closing bracket, no second value. Of two fields with one key the later counts. Values nest
at most 127 deep.

Main statement: `skipBlank_append_blank`, blanks before a value do not matter to a reader that
skips them.
-/

namespace SalesLedger.Json

/-- The four blanks that may stand between the parts of a text. -/
def isBlank (c : Char) : Bool := c == ' ' || c == '\n' || c == '\t' || c == '\r'

/-- A text without the blanks at its start. -/
def skipBlank (cs : List Char) : List Char := cs.dropWhile isBlank

/-- How deep values may nest, counted from one more than the last that is read. -/
def depthLimit : Nat := 128

/-- Reads the letters of a fixed word. -/
def word : List Char → List Char → Except Stop (List Char)
  | [], cs => .ok cs
  | _ :: _, [] => .error (.before .eofValue [])
  | w :: ws, c :: cs => if c == w then word ws cs else .error (.at .expectedIdent (c :: cs))

/-- A value that begins with a letter of one of the three words. -/
def constant? (c : Char) : Option (List Char × Json) :=
  if c == 'n' then some (['u', 'l', 'l'], .null)
  else if c == 't' then some (['r', 'u', 'e'], .bool true)
  else if c == 'f' then some (['a', 'l', 's', 'e'], .bool false)
  else none

def colon (cs : List Char) : Except Stop (List Char) :=
  match skipBlank cs with
  | [] => .error (.before .eofObject [])
  | c :: rest => if c == ':' then .ok rest else .error (.at .expectedColon (c :: rest))

/-- Where an object goes on: at its end, or at the quote of a key. -/
inductive KeyAhead where
  | finished (rest : List Char)
  | key (rest : List Char)

/-- What may follow an opening brace. -/
def firstKey (cs : List Char) : Except Stop KeyAhead :=
  match skipBlank cs with
  | [] => .error (.before .eofObject [])
  | c :: rest =>
    if c.toNat == 0x7d then .ok (.finished rest)
    else if c == '"' then .ok (.key rest)
    else .error (.at .keyNotText (c :: rest))

/-- What may follow a field. -/
def nextKey (cs : List Char) : Except Stop KeyAhead :=
  match skipBlank cs with
  | [] => .error (.before .eofObject [])
  | c :: rest =>
    if c.toNat == 0x7d then .ok (.finished rest)
    else if c == ',' then
      match skipBlank rest with
      | [] => .error (.before .eofValue [])
      | d :: rest =>
        if d == '"' then .ok (.key rest)
        else if d.toNat == 0x7d then .error (.at .trailingComma (d :: rest))
        else .error (.at .keyNotText (d :: rest))
    else .error (.at .expectedFieldEnd (c :: rest))

mutual

/-- A value, with a bound on the steps of the reader and the depth that is left. -/
def value : Nat → Nat → List Char → Except Stop (Json × List Char)
  | 0, _, cs => .error (.at .tooDeep cs)
  | fuel + 1, depth, cs =>
    match skipBlank cs with
    | [] => .error (.before .eofValue [])
    | c :: rest =>
      match constant? c with
      | some (letters, v) => do pure (v, ← word letters rest)
      | none =>
        if c == '-' then Numeral.read false rest
        else if Text.isDigit c then Numeral.read true (c :: rest)
        else if c == '"' then do
          let (s, rest) ← Quoted.read rest
          pure (.text s, rest)
        else if c == '[' then
          if depth ≤ 1 then .error (.at .tooDeep (c :: rest))
          else do
            let (items, rest) ← items fuel (depth - 1) rest
            pure (.array items, rest)
        else if c.toNat == 0x7b then
          if depth ≤ 1 then .error (.at .tooDeep (c :: rest))
          else do
            let (fields, rest) ← fields fuel (depth - 1) (← firstKey rest)
            pure (ofFields fields, rest)
        else .error (.at .expectedValue (c :: rest))

/-- The items of an array, from after its bracket. -/
def items : Nat → Nat → List Char → Except Stop (List Json × List Char)
  | 0, _, cs => .error (.at .tooDeep cs)
  | fuel + 1, depth, cs =>
    match skipBlank cs with
    | [] => .error (.before .eofList [])
    | c :: rest =>
      if c == ']' then .ok ([], rest)
      else do
        let (v, rest) ← value fuel depth (c :: rest)
        let (vs, rest) ← moreItems fuel depth rest
        pure (v :: vs, rest)

/-- The items of an array, from after an item. -/
def moreItems : Nat → Nat → List Char → Except Stop (List Json × List Char)
  | 0, _, cs => .error (.at .tooDeep cs)
  | fuel + 1, depth, cs =>
    match skipBlank cs with
    | [] => .error (.before .eofList [])
    | c :: rest =>
      if c == ']' then .ok ([], rest)
      else if c == ',' then
        match skipBlank rest with
        | [] => .error (.before .eofValue [])
        | d :: rest =>
          if d == ']' then .error (.at .trailingComma (d :: rest))
          else do
            let (v, rest) ← value fuel depth (d :: rest)
            let (vs, rest) ← moreItems fuel depth rest
            pure (v :: vs, rest)
      else .error (.at .expectedItemEnd (c :: rest))

/-- The fields of an object in the order they are written. -/
def fields : Nat → Nat → KeyAhead → Except Stop (List (String × Json) × List Char)
  | 0, _, .finished cs => .error (.at .tooDeep cs)
  | 0, _, .key cs => .error (.at .tooDeep cs)
  | _ + 1, _, .finished rest => .ok ([], rest)
  | fuel + 1, depth, .key cs => do
    let (k, rest) ← Quoted.read cs
    let (v, rest) ← value fuel depth (← colon rest)
    let (more, rest) ← fields fuel depth (← nextKey rest)
    pure ((k, v) :: more, rest)

end

/-- A bound on the steps that reading a text takes: no two calls in a row leave the text as it
is. -/
def stepBound (cs : List Char) : Nat := 2 * cs.length + 4

/-- Nothing but blanks may follow. -/
def ended (cs : List Char) : Except Stop Unit :=
  match skipBlank cs with
  | [] => .ok ()
  | rest => .error (.at .trailingCharacters rest)

/-- Reads a text that holds one value. -/
def parseChars (cs : List Char) : Except SyntaxError Json :=
  match (do
    let (v, rest) ← value (stepBound cs) depthLimit cs
    ended rest
    pure v : Except Stop Json) with
  | .ok v => .ok v
  | .error s => .error (s.toError cs)

/-- Reads a text that holds one value. -/
def parse (s : String) : Except SyntaxError Json :=
  parseChars s.toList

/-! ## Laws -/

theorem skipBlank_append_blank {bs : List Char} (h : ∀ c ∈ bs, isBlank c = true)
    (cs : List Char) : skipBlank (bs ++ cs) = skipBlank cs := by
  induction bs with
  | nil => rfl
  | cons b bs ih =>
    have hb : isBlank b = true := h b (by simp)
    simpa [skipBlank, hb] using ih fun c hc => h c (by simp [hc])

end SalesLedger.Json
