import SalesLedger.Text.Utf8

/-!
# Why a text is no JSON

A reader that stops says why and where. The place is kept as what was left of the text, with the
number of bytes of it that had been looked at; line and column are worked out only for a message.

Main statement: `Place.advance_append`, the place reached after two pieces of text is the one that
the second piece leads to from the place after the first.
-/

namespace SalesLedger.Json

/-- Why reading stopped. -/
inductive Fault where
  | eofValue
  | eofText
  | eofList
  | eofObject
  | expectedIdent
  | expectedColon
  | expectedItemEnd
  | expectedFieldEnd
  | expectedValue
  | keyNotText
  | trailingComma
  | trailingCharacters
  | invalidNumber
  | outOfRange
  | invalidEscape
  | endOfHexEscape
  | loneSurrogate
  | controlCharacter
  | tooDeep
  | wrongType (found expected : String)
  | duplicateField (name : String)
  deriving Repr, DecidableEq

/-- What a message says about a fault. -/
def Fault.text : Fault → String
  | .eofValue => "EOF while parsing a value"
  | .eofText => "EOF while parsing a string"
  | .eofList => "EOF while parsing a list"
  | .eofObject => "EOF while parsing an object"
  | .expectedIdent => "expected ident"
  | .expectedColon => "expected `:`"
  | .expectedItemEnd => "expected `,` or `]`"
  | .expectedFieldEnd => "expected `,` or `\x7d`"
  | .expectedValue => "expected value"
  | .keyNotText => "key must be a string"
  | .trailingComma => "trailing comma"
  | .trailingCharacters => "trailing characters"
  | .invalidNumber => "invalid number"
  | .outOfRange => "number out of range"
  | .invalidEscape => "invalid escape"
  | .endOfHexEscape => "unexpected end of hex escape"
  | .loneSurrogate => "lone leading surrogate in hex escape"
  | .controlCharacter => "control character (\\u0000-\\u001F) found while parsing a string"
  | .tooDeep => "recursion limit exceeded"
  | .wrongType found expected => "invalid type: " ++ found ++ ", expected " ++ expected
  | .duplicateField name => "duplicate field `" ++ name ++ "`"

/-- A fault, what was left of the text, and how many bytes of that had been looked at. -/
structure Stop where
  fault : Fault
  rest : List Char
  seen : Nat
  deriving Repr, DecidableEq

/-- Stops at the end of what was read. -/
def Stop.before (fault : Fault) (rest : List Char) : Stop := ⟨fault, rest, 0⟩

/-- Stops at the first byte of what was left. -/
def Stop.at (fault : Fault) (rest : List Char) : Stop := ⟨fault, rest, 1⟩

/-- A line, counted from one, and a number of bytes on it. -/
structure Place where
  line : Nat
  column : Nat
  deriving Repr, DecidableEq

/-- The place some bytes further on. A line break counts as the start of the next line. -/
def Place.advance : Place → Nat → List Char → Place
  | p, _, [] => p
  | p, n, c :: cs =>
    if n < c.utf8Size then { p with column := p.column + n }
    else if c == '\n' then advance ⟨p.line + 1, 0⟩ (n - c.utf8Size) cs
    else advance { p with column := p.column + c.utf8Size } (n - c.utf8Size) cs

/-- Where in a text reading stopped. -/
def Stop.place (whole : List Char) (s : Stop) : Place :=
  Place.advance ⟨1, 0⟩ (Text.Utf8.size whole - Text.Utf8.size s.rest + s.seen) whole

/-- A fault with its place, as a message tells it. -/
structure SyntaxError where
  fault : Fault
  place : Place
  deriving Repr, DecidableEq

def SyntaxError.message (e : SyntaxError) : String :=
  e.fault.text ++ " at line " ++ toString e.place.line ++ " column " ++ toString e.place.column

/-- The syntax error of a stop in a text. -/
def Stop.toError (whole : List Char) (s : Stop) : SyntaxError :=
  ⟨s.fault, s.place whole⟩

/-! ## Laws -/

theorem Place.advance_append (p : Place) (n : Nat) (cs ds : List Char) :
    Place.advance p (Text.Utf8.size cs + n) (cs ++ ds) =
      Place.advance (Place.advance p (Text.Utf8.size cs) cs) n ds := by
  induction cs generalizing p with
  | nil => simp [Place.advance]
  | cons c cs ih =>
    have hlt : ¬ (c.utf8Size + Text.Utf8.size cs + n < c.utf8Size) := by omega
    have hlt' : ¬ (c.utf8Size + Text.Utf8.size cs < c.utf8Size) := by omega
    have hsub : c.utf8Size + Text.Utf8.size cs + n - c.utf8Size = Text.Utf8.size cs + n := by omega
    have hsub' : c.utf8Size + Text.Utf8.size cs - c.utf8Size = Text.Utf8.size cs := by omega
    by_cases hc : c == '\n' <;>
      simp [Place.advance, hlt, hlt', hsub, hsub', hc, ih]

end SalesLedger.Json
