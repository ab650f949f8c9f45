import SalesLedger.Text.Ascii
import SalesLedger.Text.Blank

/-!
# Tokens of statements

A statement is written as a row of tokens with blanks between some of them. Names stand in double
quotes and text in single quotes, where a quote inside is written twice; a question mark stands for
a value that is bound to the statement. The reader also knows names in other quotes and bytes.

`tokens` is the reader of the engine's language: it takes a text apart again, comments and
semicolons included.
-/

namespace SalesLedger.Sql

/-- A token of a statement. -/
inductive Token where
  /-- A keyword, or a name without quotes. -/
  | word (s : String)
  /-- A name in double quotes. -/
  | name (s : String)
  /-- A text in single quotes. -/
  | literal (s : String)
  | number (s : String)
  /-- Bytes in hexadecimal digits. -/
  | bytes (digits : String)
  | placeholder
  | symbol (c : Char)
  | comment
  | semicolon
  /-- A quote that is never closed, or a variable with a name. -/
  | unknown
  deriving Repr, DecidableEq

namespace Token

/-- A text between two quotes, with every quote inside written twice. -/
def quoteWith (quote : Char) (cs : List Char) : List Char :=
  quote :: (cs.flatMap (fun c => if c == quote then [quote, quote] else [c]) ++ [quote])

/-- The text of a token, for those that statements are written with. -/
def chars : Token → List Char
  | word s => s.toList
  | name s => quoteWith '"' s.toList
  | literal s => quoteWith '\'' s.toList
  | number s => s.toList
  | bytes s => 'x' :: quoteWith '\'' s.toList
  | placeholder => ['?']
  | symbol c => [c]
  | comment => []
  | semicolon => [';']
  | unknown => []

end Token

/-- A token, or a blank between two. -/
inductive Lexeme where
  | token (t : Token)
  | blank
  deriving Repr, DecidableEq

namespace Lexeme

/-- The text of a token or blank. -/
def chars : Lexeme → List Char
  | token t => t.chars
  | blank => [' ']

/-- The text of a row of tokens and blanks. -/
def text (ls : List Lexeme) : String :=
  String.ofList (ls.flatMap chars)

def tokens (ls : List Lexeme) : List Token :=
  ls.filterMap fun
    | token t => some t
    | blank => none

/-- A word, a name, a text, a mark. -/
def word (s : String) : Lexeme := token (.word s)
def name (s : String) : Lexeme := token (.name s)
def literal (s : String) : Lexeme := token (.literal s)
def symbol (c : Char) : Lexeme := token (.symbol c)
def placeholder : Lexeme := token .placeholder

end Lexeme

/-! ## Reading -/

namespace Token

/-- What follows an opening quote up to the closing one: the text between them, with doubled
quotes as one. -/
def quoted (quote : Char) : List Char → Option (List Char × List Char)
  | [] => none
  | [c] => if c == quote then some ([], []) else none
  | c :: d :: rest =>
    if c == quote then
      if d == quote then (quoted quote rest).map fun p => (quote :: p.1, p.2)
      else some ([], d :: rest)
    else (quoted quote (d :: rest)).map fun p => (c :: p.1, p.2)

/-- A character that words begin with. -/
def opensWord (c : Char) : Bool :=
  Text.isLetter c || c == '_' || 0x80 ≤ c.toNat

/-- A character that words go on with. -/
def continuesWord (c : Char) : Bool :=
  opensWord c || Text.isDigit c || c == '$'

/-- A blank between tokens. -/
def isBlank (c : Char) : Bool :=
  c == ' ' || c == '\t' || c == '\n' || c == '\r' || c.toNat == 12

/-- What follows a block comment. -/
def afterComment : List Char → List Char
  | '*' :: '/' :: rest => rest
  | _ :: rest => afterComment rest
  | [] => []

/-- The closing quote that belongs to an opening one of a name. -/
def nameQuote? (c : Char) : Option Char :=
  if c == '"' then some '"'
  else if c == '[' then some ']'
  else if c.toNat == 0x60 then some c
  else none

/-- The name between an opening quote, already read, and its closing one. Only a bracket cannot be
written twice. -/
def quotedName (close : Char) (cs : List Char) : Option (List Char × List Char) :=
  if close == ']' then
    if cs.contains ']' then some (cs.takeWhile (· != ']'), (cs.dropWhile (· != ']')).drop 1)
    else none
  else quoted close cs

/-- A run of digits, and what follows it. -/
def readDigits (cs : List Char) : List Char × List Char :=
  (cs.takeWhile Text.isDigit, cs.dropWhile Text.isDigit)

/-- An exponent of ten, if one follows. -/
def readExponent (cs : List Char) : List Char × List Char :=
  match cs with
  | e :: rest =>
    if e == 'e' || e == 'E' then
      let (signs, more) : List Char × List Char :=
        match rest with
        | s :: more => if s == '+' || s == '-' then ([s], more) else ([], rest)
        | [] => ([], [])
      match readDigits more with
      | ([], _) => ([], cs)
      | (ds, rest) => (e :: signs ++ ds, rest)
    else ([], cs)
  | [] => ([], [])

/-- A number, which begins with a digit or with a point and a digit, and what follows it. -/
def readNumber (cs : List Char) : List Char × List Char :=
  match cs with
  | '0' :: x :: rest =>
    if x == 'x' || x == 'X' then
      ('0' :: x :: rest.takeWhile continuesWord, rest.dropWhile continuesWord)
    else decimal cs
  | _ => decimal cs
where
  /-- A number to base ten. -/
  decimal (cs : List Char) : List Char × List Char :=
    let (whole, rest) := readDigits cs
    let (point, rest) : List Char × List Char :=
      match rest with
      | '.' :: more => ('.' :: (readDigits more).1, (readDigits more).2)
      | _ => ([], rest)
    let (power, rest) := readExponent rest
    (whole ++ point ++ power, rest)

/-- Whether a number begins here. -/
def opensNumber (c : Char) (rest : List Char) : Bool :=
  Text.isDigit c || c == '.' && (rest.head?.any Text.isDigit)

/-- Whether bytes in hexadecimal digits begin here. -/
def opensBytes (c : Char) (rest : List Char) : Bool :=
  (c == 'x' || c == 'X') && rest.head? == some '\''

/-- The token of a text in quotes; one that is never closed takes all that follows. -/
def ofQuoted (make : String → Token) (read : Option (List Char × List Char)) :
    Token × List Char :=
  match read with
  | some (s, rest) => (make (String.ofList s), rest)
  | none => (.unknown, [])

/-- The first token of a text and what follows it, blanks passed over. -/
def next? (cs : List Char) : Option (Token × List Char) :=
  match cs.dropWhile isBlank with
  | [] => none
  | c :: rest =>
    match nameQuote? c with
    | some close => some (ofQuoted name (quotedName close rest))
    | none =>
      if c == '\'' then some (ofQuoted literal (quoted '\'' rest))
      else if c == '?' then some (.placeholder, rest.dropWhile Text.isDigit)
      else if c == ';' then some (.semicolon, rest)
      else if c == '-' && rest.head? == some '-' then
        some (.comment, rest.dropWhile fun d => d != '\n')
      else if c == '/' && rest.head? == some '*' then some (.comment, afterComment (rest.drop 1))
      else if opensBytes c rest then some (ofQuoted bytes (quoted '\'' (rest.drop 1)))
      else if opensWord c then
        some (.word (String.ofList (c :: rest.takeWhile continuesWord)),
          rest.dropWhile continuesWord)
      else if opensNumber c rest then
        let (n, rest) := readNumber (c :: rest)
        some (.number (String.ofList n), rest)
      else if c == '$' || c == '@' || c == ':' || c == '#' then
        some (.unknown, rest.dropWhile continuesWord)
      else some (.symbol c, rest)

/-- The tokens of a text, at most so many. -/
def read : Nat → List Char → List Token
  | 0, _ => []
  | fuel + 1, cs =>
    match next? cs with
    | some (t, rest) => t :: read fuel rest
    | none => []

def ofText (s : String) : List Token :=
  read s.length s.toList

end Token

end SalesLedger.Sql
