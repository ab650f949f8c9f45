import SalesLedger.Json.Printer
import SalesLedger.Sql.Document.Basic

/-!
# Reading documents

Documents as texts. The reader is lenient: besides what the strict format has, it knows comments and
other blanks, commas at the end of lists, labels without quotes, texts in single quotes, more
escapes, hexadecimal numbers, numbers that lack digits beside their point, a plus sign, and words
for numbers that are infinite or none. It tells whether a text needs any of this, and where it stops
at a text that is no document.

Main statement: `next_text`, by example: how lists and members are read.
-/

namespace SalesLedger.Sql.Document

open Json (openBrace closeBrace)

/-! ## Blanks -/

/-- A blank of the strict format. -/
def isSpace (c : Char) : Bool :=
  c == ' ' || c == '\t' || c == '\n' || c == '\r'

/-- A text without the spaces that it begins with. -/
def dropSpaces (cs : List Char) : List Char := cs.dropWhile isSpace

/-- What follows the end of a comment between stars. -/
def afterStars? : List Char → Option (List Char)
  | '*' :: '/' :: rest => some rest
  | _ :: rest => afterStars? rest
  | [] => none

/-- What follows a comment up to the end of its line. -/
def afterLine : List Char → List Char
  | [] => []
  | c :: cs =>
    if c == '\n' || c == '\r' then cs
    else
      match afterSeparator? (c :: cs) with
      | some rest => rest
      | none => afterLine cs

/-- The blanks that take more than one byte. -/
def wideBlanks : List (List Nat) :=
  [[0xc2, 0xa0], [0xe1, 0x9a, 0x80], [0xe2, 0x80, 0xa8], [0xe2, 0x80, 0xa9], [0xe2, 0x80, 0xaf],
    [0xe2, 0x81, 0x9f], [0xe3, 0x80, 0x80], [0xef, 0xbb, 0xbf]] ++
    (List.range 11).map fun n => [0xe2, 0x80, 0x80 + n]

/-- What follows a blank or a comment. -/
def afterBlank? (cs : List Char) : Option (List Char) :=
  match cs with
  | '/' :: '*' :: rest => afterStars? rest
  | '/' :: '/' :: rest => some (afterLine rest)
  | c :: rest =>
    if isSpace c || c.toNat == 11 || c.toNat == 12 then some rest
    else
      (wideBlanks.find? fun b => b.isPrefixOf (cs.map Char.toNat)).map fun b => cs.drop b.length
  | [] => none

/-- A text without the blanks and comments that it begins with, of which there are no more than so
many. -/
def skipBlanks : Nat → List Char → List Char
  | 0, cs => cs
  | fuel + 1, cs =>
    match afterBlank? cs with
    | some rest => skipBlanks fuel rest
    | none => cs

/-- A text without blanks and comments at its start, and whether these are those of the strict
format. -/
def trimmed (cs : List Char) : List Char × Bool :=
  let rest := skipBlanks cs.length cs
  (rest, rest.length == (dropSpaces cs).length)

/-! ## Texts and labels -/

/-- Whether a character begins a label without quotes, and whether it goes on with one. -/
def opensLabel (c : Char) : Bool :=
  Text.isLetter c || c == '_' || c == '$' || 0x80 ≤ c.toNat
def continuesLabel (c : Char) : Bool := opensLabel c || Text.isDigit c

/-- Whether a character of a label stands here in hexadecimal digits. -/
def hasEscape : List Char → Bool
  | '\\' :: 'u' :: rest => (hex? 4 rest).isSome
  | _ => false

/-- A label without quotes from its second character on, and what follows it. -/
def bareLabel (script : Script) : List Char → Script × List Char × List Char
  | [] => (script, [], [])
  | c :: cs =>
    let isEscape := hasEscape (c :: cs)
    if isEscape || continuesLabel c && (afterBlank? (c :: cs)).isNone then
      let (script, label, rest) := bareLabel (if isEscape then .escaped else script) cs
      (script, c :: label, rest)
    else (script, [], c :: cs)

/-- A label without quotes. -/
def label? (cs : List Char) : Option (Spelling × List Char) :=
  match cs with
  | [] => none
  | c :: rest =>
    if opensLabel c || hasEscape cs then
      let (script, label, rest) := bareLabel (if hasEscape cs then .escaped else .plain) rest
      some (⟨script, c :: label⟩, rest)
    else none

/-- Whether an escape behind its backslash is one of the strict format. -/
def isStrictEscape (c : Char) (rest : List Char) : Bool :=
  ['"', '\\', '/', 'b', 'f', 'n', 'r', 't'].contains c || c == 'u' && (hex? 4 rest).isSome

/-- Whether an escape behind its backslash is one of the lenient format. -/
def isLooseEscape (c : Char) (rest : List Char) : Bool :=
  ['\'', '0', 'v', '\n', '\r'].contains c || (afterSeparator? (c :: rest)).isSome ||
    c == 'x' && (hex? 2 rest).isSome

/-- A text behind its opening quote, of which `seen` is read, the last character first; whether it
keeps to the strict format; and what follows it. -/
def quoted (quote : Char) (script : Script) (isStrict : Bool) (seen : List Char) :
    List Char → Except (List Char) (Spelling × Bool × List Char)
  | [] => .error []
  | '\\' :: '\r' :: '\n' :: cs => quoted quote .loose false ('\n' :: '\r' :: '\\' :: seen) cs
  | c :: cs =>
    if c == quote then .ok (⟨script, seen.reverse⟩, isStrict, cs)
    else if c == '\\' then
      match cs with
      | [] => .error []
      | e :: rest =>
        if isStrictEscape e rest then
          quoted quote (if script = .plain then .escaped else script) isStrict (e :: c :: seen) rest
        else if isLooseEscape e rest then quoted quote .loose false (e :: c :: seen) rest
        else .error (e :: rest)
    else if c.toNat ≤ 0x1f then .error (c :: cs)
    else quoted quote (if c == '"' then .loose else script) isStrict (c :: seen) cs

/-! ## Numbers -/

/-- What is known of a number. -/
structure Digits where
  isStrict : Bool
  isBare : Bool
  isDecimal : Bool
  hasPower : Bool

def Digits.form (d : Digits) : Numeral :=
  if d.isDecimal then if d.isBare then .bare else .decimal
  else if d.isBare then .hexadecimal
  else .whole

/-- Whether a number may go on behind what is read of it, or end there; and if so, whether it lacks
digits beside its point. -/
def pointed? (seen : List Char) : Option Bool :=
  match seen with
  | '.' :: d :: _ => if Text.isDigit d then some true else none
  | '.' :: [] => none
  | _ => some false

/-- A number to base ten from its second character on. -/
def decimal (d : Digits) (seen : List Char) :
    List Char → Except (List Char) (Document × Bool × List Char)
  | [] => finish d seen []
  | c :: cs =>
    if Text.isDigit c then decimal d (c :: seen) cs
    else if c == '.' then
      if d.isDecimal then .error (c :: cs) else decimal { d with isDecimal := true } (c :: seen) cs
    else if c == 'e' || c == 'E' then
      match pointed? seen with
      | none => .error (c :: cs)
      | some isBare =>
        let d := { d with isBare := d.isBare || isBare, isStrict := d.isStrict && !isBare }
        if d.hasPower then .error (c :: cs)
        else
          let d := { d with isDecimal := true, hasPower := true }
          match cs with
          | [] => .error [c]
          | s :: more =>
            if s == '+' || s == '-' then
              if more.head?.any Text.isDigit then decimal d (s :: c :: seen) more
              else .error (s :: more)
            else if Text.isDigit s then decimal d (s :: c :: seen) more
            else .error (c :: cs)
    else finish d seen (c :: cs)
where
  /-- The number of which all is read. -/
  finish (d : Digits) (seen rest : List Char) : Except (List Char) (Document × Bool × List Char) :=
    match pointed? seen with
    | none => .error rest
    | some isBare =>
      let d := { d with isBare := d.isBare || isBare, isStrict := d.isStrict && !isBare }
      let cs := seen.reverse
      .ok (.number d.form (if cs.head? = some '+' then cs.drop 1 else cs), d.isStrict, rest)

/-- A hexadecimal number behind what is read of it. -/
def hexadecimal (seen cs : List Char) : Document × Bool × List Char :=
  let ds := cs.takeWhile fun c => (hexDigit? c).isSome
  (.number .hexadecimal (seen ++ ds), false, cs.drop ds.length)

/-- Whether digits of a hexadecimal number follow a zero. -/
def isHexadecimal : List Char → Bool
  | x :: d :: _ => (x == 'x' || x == 'X') && (hexDigit? d).isSome
  | _ => false

/-- Whether a text begins with a word, in any case. -/
def begins (word : String) (cs : List Char) : Bool :=
  (cs.take word.length).map Text.lowerLetter == word.toList

/-- A number behind its sign. -/
def signed (sign : Char) (cs : List Char) : Except (List Char) (Document × Bool × List Char) :=
  let isStrict := sign == '-'
  match cs with
  | '0' :: rest =>
    if rest.head?.any Text.isDigit then .error cs
    else if isHexadecimal rest then
      .ok (hexadecimal ((if isStrict then ['-'] else []) ++ '0' :: rest.take 1) (rest.drop 1))
    else decimal ⟨isStrict, false, false, false⟩ ['0', sign] rest
  | '.' :: _ => decimal ⟨false, true, false, false⟩ [sign] cs
  | c :: rest =>
    if Text.isDigit c then decimal ⟨isStrict, false, false, false⟩ [c, sign] rest
    else if begins "inf" cs then
      .ok (infinite isStrict, false, cs.drop (if begins "inity" (cs.drop 3) then 8 else 3))
    else .error (sign :: cs)
  | [] => .error [sign]

def numeral (c : Char) (cs : List Char) : Except (List Char) (Document × Bool × List Char) :=
  if c == '-' || c == '+' then signed c cs
  else if c == '.' then
    if cs.head?.any Text.isDigit then decimal ⟨false, true, true, false⟩ [c] cs
    else .error (c :: cs)
  else if c == '0' then
    if cs.head?.any Text.isDigit then .error cs
    else if isHexadecimal cs then .ok (hexadecimal (c :: cs.take 1) (cs.drop 1))
    else decimal ⟨true, false, false, false⟩ [c] cs
  else decimal ⟨true, false, false, false⟩ [c] cs

/-! ## Words -/

/-- What follows a word that no letter or digit goes on with. -/
def afterWord? (word : List Char) (cs : List Char) : Option (List Char) :=
  if word.isPrefixOf cs then
    if ((cs.drop word.length).head?).any fun c => Text.isLetter c || Text.isDigit c then none
    else some (cs.drop word.length)
  else none

/-- The words of the strict format. -/
def words : List (String × Document) :=
  [("true", .truth true), ("false", .truth false), ("null", .null)]

/-- The words of the lenient format, which are known in any case. -/
def looseWords : List (String × Document) :=
  [("inf", infinite false), ("infinity", infinite false), ("nan", .null), ("qnan", .null),
    ("snan", .null)]

/-- A word, whether it is one of the strict format, and what follows it. -/
def word? (cs : List Char) : Option (Document × Bool × List Char) :=
  match words.findSome? fun w => (afterWord? w.1.toList cs).map fun rest => (w.2, true, rest) with
  | some found => some found
  | none =>
    looseWords.findSome? fun w =>
      (afterWord? w.1.toList (cs.map Text.lowerLetter)).map fun rest =>
        (w.2, false, cs.drop (cs.length - rest.length))

/-! ## Documents -/

/-- What stands next in a text. -/
inductive Next where
  /-- A document, whether it keeps to the strict format, and what follows it. -/
  | value (d : Document) (isStrict : Bool) (rest : List Char)
  /-- A closing bracket, a comma or a colon, with which the rest begins. -/
  | mark (isStrict : Bool) (rest : List Char)
  /-- The end of the text. -/
  | finish
  /-- What no document begins with. -/
  | fault (rest : List Char)

/-- How deep documents may hold each other. -/
def deepest : Nat := 1000

/-- Whether a rest begins with a mark. -/
def stands (mark : Char) (rest : List Char) : Bool := rest.head? == some mark

/-- Where a text is broken that should go on with something else at a place. -/
def Next.orFault (n : Next) (place : List Char) : Next :=
  match n with
  | .fault rest => .fault rest
  | _ => .fault place

mutual

/-- What stands next in a text. -/
def next (fuel depth : Nat) (cs : List Char) : Next :=
  match fuel with
  | 0 => .fault cs
  | fuel + 1 =>
    let (cs, isStrict) := trimmed cs
    let leaf (found : Except (List Char) (Document × Bool × List Char)) : Next :=
      match found with
      | .ok (d, strict, rest) => .value d (isStrict && strict) rest
      | .error rest => .fault rest
    match cs with
    | [] => .finish
    | c :: rest =>
      if c == openBrace then
        if depth = deepest then .fault cs else members fuel (depth + 1) [] isStrict rest
      else if c == '[' then
        if depth = deepest then .fault cs else items fuel (depth + 1) [] isStrict rest
      else if c == '"' || c == '\'' then
        leaf <| (quoted c .plain (c == '"') [] rest).map fun (s, strict, rest) =>
          (.text s, strict, rest)
      else if [closeBrace, ']', ',', ':'].contains c then .mark isStrict cs
      else if c == '+' || c == '-' || c == '.' || Text.isDigit c then leaf (numeral c rest)
      else
        match word? cs with
        | some found => leaf (.ok found)
        | none => .fault cs

/-- The items of a list, of which `seen` are read, the last one first. -/
def items (fuel depth : Nat) (seen : List Document) (isStrict : Bool) (cs : List Char) : Next :=
  match fuel with
  | 0 => .fault cs
  | fuel + 1 =>
    let close (strict : Bool) (seen : List Document) (rest : List Char) : Next :=
      .value (.array seen.reverse) (isStrict && strict) (rest.drop 1)
    match next fuel depth cs with
    | .value d strict rest =>
      let rest := dropSpaces rest
      if stands ',' rest then items fuel depth (d :: seen) (isStrict && strict) (rest.drop 1)
      else if stands ']' rest then close strict (d :: seen) rest
      else
        match next fuel depth rest with
        | .mark again behind =>
          if stands ',' behind then
            items fuel depth (d :: seen) (isStrict && strict && again) (behind.drop 1)
          else if stands ']' behind then close (strict && again) (d :: seen) behind
          else .fault rest
        | _ => .fault rest
    | .mark strict rest =>
      if stands ']' rest then close (strict && seen.isEmpty) seen rest else .fault cs
    | n => n.orFault cs

/-- The members of an object, of which `seen` are read, the last one first. -/
def members (fuel depth : Nat) (seen : List (Spelling × Document)) (isStrict : Bool)
    (cs : List Char) : Next :=
  match fuel with
  | 0 => .fault cs
  | fuel + 1 =>
    let bare (n : Next) : Next :=
      let cs := (trimmed cs).1
      match label? cs with
      | some (s, rest) => member fuel depth seen s false rest
      | none => n.orFault cs
    match next fuel depth cs with
    | .value (.text s) strict rest => member fuel depth seen s (isStrict && strict) rest
    | .value _ _ _ => .fault cs
    | .mark strict rest =>
      if stands closeBrace rest then
        .value (.object seen.reverse) (isStrict && strict && seen.isEmpty) (rest.drop 1)
      else bare (.mark strict rest)
    | n => bare n

/-- A member behind its label, and those that follow it. -/
def member (fuel depth : Nat) (seen : List (Spelling × Document)) (s : Spelling) (isStrict : Bool)
    (cs : List Char) : Next :=
  match fuel with
  | 0 => .fault cs
  | fuel + 1 =>
    let cs := dropSpaces cs
    if stands ':' cs then valued fuel depth seen s isStrict (cs.drop 1)
    else
      match next fuel depth cs with
      | .mark strict rest =>
        if stands ':' rest then valued fuel depth seen s (isStrict && strict) (rest.drop 1)
        else .fault cs
      | n => n.orFault cs

/-- The value of a member, and the members that follow it. -/
def valued (fuel depth : Nat) (seen : List (Spelling × Document)) (s : Spelling) (isStrict : Bool)
    (cs : List Char) : Next :=
  match fuel with
  | 0 => .fault cs
  | fuel + 1 =>
    match next fuel depth cs with
    | .value d strict rest =>
      let rest := dropSpaces rest
      let goOn (strict : Bool) (rest : List Char) : Next :=
        members fuel depth ((s, d) :: seen) (isStrict && strict) (rest.drop 1)
      let close (strict : Bool) (rest : List Char) : Next :=
        .value (.object ((s, d) :: seen).reverse) (isStrict && strict) (rest.drop 1)
      if stands ',' rest then goOn strict rest
      else if stands closeBrace rest then close strict rest
      else
        match next fuel depth rest with
        | .mark again behind =>
          if stands ',' behind then goOn (strict && again) behind
          else if stands closeBrace behind then close (strict && again) behind
          else .fault rest
        | _ => .fault rest
    | n => n.orFault cs

end

/-- A document that is read from a text. -/
structure Reading where
  document : Document
  /-- Whether the text keeps to the strict format. -/
  isStrict : Bool

/-- The document that a text is, up to a zero; or how many bytes of it are one. -/
def read (bytes : List UInt8) : Except Nat Reading :=
  let cs := Text.Bytes.chars (Text.Bytes.upToZero bytes)
  match next (4 * cs.length + 4) 0 cs with
  | .value d isStrict rest =>
    let (behind, _) := trimmed rest
    if behind.isEmpty then .ok ⟨d, isStrict && (dropSpaces rest).isEmpty⟩ else .error 0
  | .fault rest => .error (cs.length - rest.length)
  | .mark _ rest => .error (cs.length - rest.length)
  | .finish => .error 0

/-! ## Examples -/

theorem next_text :
    ((read (Text.Bytes.ofChars "[1, true]".toList)).toOption.map Reading.isStrict) = some true ∧
      ((read (Text.Bytes.ofChars "[1,]".toList)).toOption.map Reading.isStrict) = some false := by
  decide +kernel

end SalesLedger.Sql.Document
