import SalesLedger.Sql.Token
import SalesLedger.Text.Case

/-!
# Statements as they are written

Text of the engine's language that is read piece by piece: words, names, marks, what stands in
brackets, and the text that pieces were read from. Comments stand anywhere between two pieces and
say nothing.

Main statements: `after?_nil`, nothing follows a word in an empty text, and `span_self`, no text is
read where nothing is.
-/

namespace SalesLedger.Sql.Source

/-! ## Pieces -/

/-- The first token of a text that is no comment, within so many tokens, and what follows it. -/
def nextWithin : Nat → List Char → Option (Token × List Char)
  | 0, _ => none
  | fuel + 1, cs =>
    match Token.next? cs with
    | some (.comment, rest) => nextWithin fuel rest
    | found => found

/-- The first token of a text that is no comment, and what follows it. -/
def next? (cs : List Char) : Option (Token × List Char) :=
  nextWithin (cs.length + 1) cs

/-- Whether nothing follows but blanks and comments. -/
def isEnd (cs : List Char) : Bool :=
  (next? cs).isNone

/-- A word in lower case, and what follows it. -/
def word? (cs : List Char) : Option (String × List Char) :=
  match next? cs with
  | some (.word w, rest) => some (Text.lowerAscii w, rest)
  | _ => none

/-- What follows a word, if the text begins with it. -/
def after? (w : String) (cs : List Char) : Option (List Char) :=
  match word? cs with
  | some (v, rest) => if v = w then some rest else none
  | none => none

/-- What follows some words, if the text begins with them. -/
def afterAll? (ws : List String) (cs : List Char) : Option (List Char) :=
  ws.foldlM (fun cs w => after? w cs) cs

/-- A text without a word that it may begin with. -/
def skip (w : String) (cs : List Char) : List Char :=
  (after? w cs).getD cs

/-- What follows a mark, if the text begins with it. -/
def afterSymbol? (c : Char) (cs : List Char) : Option (List Char) :=
  match next? cs with
  | some (.symbol d, rest) => if c == d then some rest else none
  | _ => none

/-- What follows some marks, if the text begins with them. -/
def afterSymbols? (marks : String) (cs : List Char) : Option (List Char) :=
  marks.toList.foldlM (fun cs c => afterSymbol? c cs) cs

def name? (cs : List Char) : Option (String × List Char) :=
  match next? cs with
  | some (.word n, rest) | some (.name n, rest) | some (.literal n, rest) => some (n, rest)
  | _ => none

/-! ## Spans -/

/-- The text between the rest before and the rest after something is read. -/
def span (before after : List Char) : List Char :=
  before.take (before.length - after.length)

/-- A text without the blanks around it. -/
def trimmed (cs : List Char) : List Char :=
  ((cs.dropWhile Text.isAsciiBlank).reverse.dropWhile Text.isAsciiBlank).reverse

/-- What follows the bracket that closes at a depth, within so many tokens. -/
def closing? : Nat → Nat → List Char → Option (List Char)
  | 0, _, _ => none
  | fuel + 1, depth, cs =>
    match next? cs with
    | none => none
    | some (t, rest) =>
      if t = .symbol '(' then closing? fuel (depth + 1) rest
      else if t = .symbol ')' then
        if depth = 0 then some rest else closing? fuel (depth - 1) rest
      else closing? fuel depth rest

/-- The text between brackets, and what follows it. -/
def bracketed? (cs : List Char) : Option (List Char × List Char) :=
  match next? cs with
  | some (.symbol '(', inner) =>
    (closing? (inner.length + 1) 0 inner).map fun rest =>
      (inner.take (inner.length - rest.length - 1), rest)
  | _ => none

/-- A text without the quotes that it may begin with: what they hold, and nothing behind them. -/
def unquoted (cs : List Char) : List Char :=
  match cs with
  | q :: rest =>
    if q == '\'' || (Token.nameQuote? q).isSome then
      match Token.quotedName ((Token.nameQuote? q).getD q) rest with
      | some (n, _) => n
      | none => cs
    else cs
  | [] => []

/-! ## Types -/

/-- The words that end the name of a type. -/
def keywords : List String :=
  ["constraint", "primary", "not", "null", "unique", "check", "default", "collate", "references",
    "as", "deferrable"]

/-- Whether the name of a type ends before a word, which is given with what follows it. -/
def endsType (w : String) (rest : List Char) : Bool :=
  keywords.contains w || w == "generated" && (after? "always" rest).isSome

/-- What follows the words of a type, within so many. -/
def afterTypeWords : Nat → List Char → List Char
  | 0, cs => cs
  | fuel + 1, cs =>
    match next? cs with
    | some (.word n, rest) =>
      if endsType (Text.lowerAscii n) rest then cs else afterTypeWords fuel rest
    | some (.name _, rest) | some (.literal _, rest) => afterTypeWords fuel rest
    | _ => cs

/-- The text of a type, which may end in brackets, and what follows it. -/
def type (cs : List Char) : List Char × List Char :=
  let rest := afterTypeWords cs.length cs
  if rest.length = cs.length then ([], cs)
  else
    let rest :=
      match bracketed? rest with
      | some (_, rest) => rest
      | none => rest
    (unquoted (trimmed (span (start cs) rest)), rest)
where
  /-- The text from its first piece on. -/
  start (cs : List Char) : List Char :=
    match next? cs with
    | some (_, rest) => first cs.length cs rest
    | none => cs
  /-- The text from the piece on that ends before a rest, within so many comments. -/
  first : Nat → List Char → List Char → List Char
    | 0, cs, _ => cs
    | fuel + 1, cs, rest =>
      match Token.next? cs with
      | some (.comment, more) => first fuel more rest
      | _ => cs

/-! ## Laws -/

theorem after?_nil (w : String) : after? w [] = none := rfl

theorem span_self (cs : List Char) : span cs cs = [] := by
  simp [span]

end SalesLedger.Sql.Source
