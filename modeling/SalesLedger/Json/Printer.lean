import SalesLedger.Decimal.Shortest
import SalesLedger.Json.Value

/-!
# Writing JSON

Two layouts of one value: `compact`, without blanks, and `pretty`, with two spaces a level and a
blank after a colon. Doubles are written with the fewest digits that read back, positionally from
1e-5 up to below 1e16 and with an exponent elsewhere, and always with a point or an exponent.
Texts keep all characters but the quote, the backslash and the controls.
-/

namespace SalesLedger.Json

/-! ## Numbers -/

/-- The text of a double from its shortest decimal: `d.d`, `0.00d` or `d.de±n`. -/
def decimalText (d : Decimal.Scientific) : List Char :=
  let digits := Nat.toDigits 10 d.digits
  let point : Int := digits.length + d.exponent
  if 0 ≤ d.exponent ∧ point ≤ 16 then
    digits ++ List.replicate d.exponent.toNat '0' ++ ['.', '0']
  else if 0 < point ∧ point ≤ 16 then
    digits.take point.toNat ++ '.' :: digits.drop point.toNat
  else if -5 < point ∧ point ≤ 0 then
    '0' :: '.' :: (List.replicate (-point).toNat '0' ++ digits)
  else
    let exponent := point - 1
    let mark := 'e' :: (if exponent < 0 then '-' else '+') :: Nat.toDigits 10 exponent.natAbs
    match digits with
    | [d] => d :: mark
    | d :: rest => d :: '.' :: (rest ++ mark)
    | [] => mark

/-- The text of a finite double. -/
def floatText (x : Float) : String :=
  let body := decimalText (Decimal.Shortest.ofFloat x)
  String.ofList (if (Decimal.Binary64.parts x).negative then '-' :: body else body)

/-! ## Texts -/

/-- A digit to base sixteen, in lower case. -/
def hexDigit (n : Nat) : Char :=
  Nat.digitChar n

/-- One character inside quotes. -/
def escapeChar (c : Char) : List Char :=
  if c == '"' then ['\\', '"']
  else if c == '\\' then ['\\', '\\']
  else if c == '\n' then ['\\', 'n']
  else if c == '\r' then ['\\', 'r']
  else if c == '\t' then ['\\', 't']
  else if c.toNat == 8 then ['\\', 'b']
  else if c.toNat == 12 then ['\\', 'f']
  else if c.toNat < 0x20 then
    ['\\', 'u', '0', '0', hexDigit (c.toNat / 16), hexDigit (c.toNat % 16)]
  else [c]

def quoted (s : String) : List Char :=
  '"' :: (s.toList.flatMap escapeChar ++ ['"'])

/-! ## Values -/

/-- The opening and closing brace of an object. -/
def openBrace : Char := Char.ofNat 0x7b
def closeBrace : Char := Char.ofNat 0x7d

/-- The text of a value that holds no other values. -/
def leaf : Json → List Char
  | .null => ['n', 'u', 'l', 'l']
  | .bool true => ['t', 'r', 'u', 'e']
  | .bool false => ['f', 'a', 'l', 's', 'e']
  | .integer n => (toString n).toList
  | .real x => (floatText x).toList
  | .text s => quoted s
  | .array _ => ['[', ']']
  | .object _ => [openBrace, closeBrace]

mutual

/-- A value without blanks. -/
def compactChars : Json → List Char
  | .array items => '[' :: (compactItems items ++ [']'])
  | .object fields => openBrace :: (compactFields fields ++ [closeBrace])
  | v => leaf v

/-- Values with commas between them. -/
def compactItems : List Json → List Char
  | [] => []
  | [v] => compactChars v
  | v :: rest => compactChars v ++ ',' :: compactItems rest

/-- Fields with commas between them. -/
def compactFields : List (String × Json) → List Char
  | [] => []
  | [(k, v)] => quoted k ++ ':' :: compactChars v
  | (k, v) :: rest => quoted k ++ ':' :: (compactChars v ++ ',' :: compactFields rest)

end

/-- A value on one line without blanks. -/
def compact (v : Json) : String :=
  String.ofList (compactChars v)

/-- A new line and the indentation of a level. -/
def newline (level : Nat) : List Char :=
  '\n' :: List.replicate (2 * level) ' '

mutual

/-- A value whose lines after the first stand at a level. -/
def prettyChars (level : Nat) : Json → List Char
  | .array [] => ['[', ']']
  | .array items => '[' :: (prettyItems (level + 1) items ++ newline level ++ [']'])
  | .object [] => [openBrace, closeBrace]
  | .object fields =>
    openBrace :: (prettyFields (level + 1) fields ++ newline level ++ [closeBrace])
  | v => leaf v

/-- Values on lines of their own. -/
def prettyItems (level : Nat) : List Json → List Char
  | [] => []
  | [v] => newline level ++ prettyChars level v
  | v :: rest => newline level ++ prettyChars level v ++ ',' :: prettyItems level rest

/-- Fields on lines of their own. -/
def prettyFields (level : Nat) : List (String × Json) → List Char
  | [] => []
  | [(k, v)] => newline level ++ quoted k ++ ':' :: ' ' :: prettyChars level v
  | (k, v) :: rest =>
    newline level ++ quoted k ++ ':' :: ' ' :: (prettyChars level v ++
      ',' :: prettyFields level rest)

end

/-- A value over several lines. -/
def pretty (v : Json) : String :=
  String.ofList (prettyChars 0 v)

/-! ## Examples -/

example : floatText 400 = "400.0" := by decide +kernel

example : floatText (-0.0) = "-0.0" := by decide +kernel

example : floatText 1e16 = "1e+16" := by decide +kernel

example : floatText 0.00001 = "0.00001" := by decide +kernel

example : floatText 1.5e300 = "1.5e+300" := by decide +kernel

end SalesLedger.Json
