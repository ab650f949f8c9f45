import SalesLedger.Sql.Document.Reader

/-!
# Writing documents

The text of a document in the strict format, without blanks. Spellings that the strict format knows
are written as they are; others are put into its terms.

Main statement: `chars_ofPlain`, a text without escapes stands between its quotes.
-/

namespace SalesLedger.Sql.Document

open Json (openBrace closeBrace)

/-! ## Numbers -/

/-- The value of hexadecimal digits in 64 bits; none, where they are too many. -/
def hexValue? (cs : List Char) : Option Nat :=
  cs.foldl
    (fun n? c => n?.bind fun n =>
      if 0x1000000000000000 ≤ n then none else some (n * 16 + (hexDigit? c).getD 0))
    (some 0)

/-- A hexadecimal number to base ten. One that is too great is written as infinite. -/
def hexadecimalChars (cs : List Char) : List Char :=
  let digits (cs : List Char) : List Char :=
    match hexValue? (cs.drop 2) with
    | some n => Nat.toDigits 10 n
    | none => "9.0e999".toList
  match cs with
  | '-' :: rest => '-' :: digits rest
  | _ => digits cs

/-- A number with digits on both sides of its points. -/
def filled : List Char → List Char
  | [] => []
  | c :: cs =>
    if c == '.' && !cs.head?.any Text.isDigit then c :: '0' :: filled cs else c :: filled cs

/-- A number that lacks digits beside its point. -/
def bareChars (cs : List Char) : List Char :=
  let digits (cs : List Char) : List Char :=
    if cs.head? = some '.' then '0' :: filled cs else filled cs
  match cs with
  | '-' :: rest => '-' :: digits rest
  | _ => digits cs

def numberChars : Numeral → List Char → List Char
  | .hexadecimal, cs => hexadecimalChars cs
  | .bare, cs => bareChars cs
  | _, cs => cs

/-! ## Texts -/

/-- An escape of the lenient format behind its backslash in terms of the strict one, and what
follows it. -/
def strictEscape (cs : List Char) : List Char × List Char :=
  match cs with
  | '\'' :: rest => (['\''], rest)
  | 'v' :: rest => ("\\u0009".toList, rest)
  | '0' :: rest => ("\\u0000".toList, rest)
  | 'x' :: rest => ("\\u00".toList ++ rest.take 2, rest.drop 2)
  | _ =>
    match afterLine? cs with
    | some rest => ([], rest)
    | none => ('\\' :: cs.take 1, cs.drop 1)

/-- A text of the lenient format in terms of the strict one, within so many characters. -/
def strictChars : Nat → List Char → List Char
  | 0, _ => []
  | _, [] => []
  | fuel + 1, c :: cs =>
    if c == '\\' then (strictEscape cs).1 ++ strictChars fuel (strictEscape cs).2
    else if c == '"' then '\\' :: c :: strictChars fuel cs
    else c :: strictChars fuel cs

/-- The text of a spelling in its quotes. -/
def Spelling.quotedChars (s : Spelling) : List Char :=
  let body :=
    match s.script with
    | .plain | .escaped => s.chars
    | .loose => strictChars s.chars.length s.chars
    | .raw => s.chars.flatMap Json.escapeChar
  '"' :: (body ++ ['"'])

/-! ## Documents -/

mutual

def chars : Document → List Char
  | .null => ['n', 'u', 'l', 'l']
  | .truth true => ['t', 'r', 'u', 'e']
  | .truth false => ['f', 'a', 'l', 's', 'e']
  | .number form cs => numberChars form cs
  | .text s => s.quotedChars
  | .array items => '[' :: (itemChars items ++ [']'])
  | .object members => openBrace :: (memberChars members ++ [closeBrace])

/-- Documents with commas between them. -/
def itemChars : List Document → List Char
  | [] => []
  | [d] => chars d
  | d :: rest => chars d ++ ',' :: itemChars rest

/-- Members with commas between them. -/
def memberChars : List (Spelling × Document) → List Char
  | [] => []
  | [(s, d)] => s.quotedChars ++ ':' :: chars d
  | (s, d) :: rest => s.quotedChars ++ ':' :: (chars d ++ ',' :: memberChars rest)

end

/-- The bytes of a document's text. -/
def bytes (d : Document) : List UInt8 :=
  Text.Bytes.ofChars d.chars

/-! ## Laws -/

theorem chars_ofPlain (cs : List Char) :
    (text ⟨.plain, cs⟩).chars = '"' :: (cs ++ ['"']) := by
  rw [chars]
  rfl

end SalesLedger.Sql.Document
