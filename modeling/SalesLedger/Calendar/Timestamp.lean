import SalesLedger.Calendar.DateText

/-!
# Texts that name a moment

A date with a time of day, in the two spellings that records use, and the strict spelling with an
offset. All of them are read for their date alone: the date is the one that is written, not the
one that the offset would move it to.
-/

namespace SalesLedger.Calendar

/-- Hours, minutes and seconds, one or two digits each, blanks before each number allowed. A
leap second may be the sixty-first. -/
def readTime (cs : List Char) : Except DateFault (List Char) := do
  let (_, cs) ← readField 0 23 cs
  let (_, cs) ← readField 0 59 (← readMark ':' cs)
  let (_, cs) ← readField 0 60 (← readMark ':' cs)
  pure cs

/-- A date, a separator and a time of day. -/
def readDateTime (separator : List Char → Except DateFault (List Char)) (cs : List Char) :
    Except DateFault Date := do
  let ((year, month, day), cs) ← readParts '-' cs
  let rest ← readTime (← separator cs)
  readEnd rest
  toDate year month day

/-! ## The strict spelling -/

/-- A number of exactly `width` digits within bounds. -/
def readFixed (width low high : Nat) (cs : List Char) : Except DateFault (Nat × List Char) := do
  let field := cs.take width
  if field.length = width ∧ field.all Text.isDigit then
    let (n, rest) := readDigits width 0 cs
    if low ≤ n ∧ n ≤ high then pure (n, rest) else throw .outOfRange
  else throw .unexpected

def readFraction (cs : List Char) : Except DateFault (List Char) :=
  match cs with
  | '.' :: rest => do
    let (_, rest) ← readNumber rest.length rest
    pure rest
  | _ => .ok cs

/-- An offset from universal time of less than a day. -/
def readOffset (cs : List Char) : Except DateFault (List Char) :=
  match cs with
  | [] => .error .tooShort
  | c :: rest =>
    if c == 'Z' || c == 'z' then .ok rest
    else if c == '+' || c == '-' || c.toNat == 0x2212 then do
      let (_, rest) ← readFixed 2 0 23 rest
      let (_, rest) ← readFixed 2 0 59 (← readMark ':' rest)
      pure rest
    else .error .unexpected

/-- The character between date and time. -/
def readSeparator (cs : List Char) : Except DateFault (List Char) :=
  match cs with
  | [] => .error .tooShort
  | c :: rest => if c == 'T' || c == 't' || c == ' ' then .ok rest else .error .unexpected

/-- The date of a moment in the strict spelling. -/
def readStrict (cs : List Char) : Except DateFault Date := do
  let (year, cs) ← readFixed 4 0 9999 cs
  let (month, cs) ← readFixed 2 1 12 (← readMark '-' cs)
  let (day, cs) ← readFixed 2 1 31 (← readMark '-' cs)
  let (_, cs) ← readFixed 2 0 23 (← readSeparator cs)
  let (_, cs) ← readFixed 2 0 59 (← readMark ':' cs)
  let (_, cs) ← readFixed 2 0 60 (← readMark ':' cs)
  let cs ← readOffset (← readFraction cs)
  readEnd cs
  toDate year month day

/-! ## Any spelling -/

/-- The spellings of a date in a record, in the order in which they are tried. -/
def recordSpellings : List (List Char → Except DateFault Date) :=
  [Date.read '-', Date.read '/', readDateTime (fun cs => .ok (Text.skipBlanks cs)),
    readDateTime (readMark 'T'), readStrict]

/-- The date that a text in a record names: by the first spelling that fits. -/
def Date.ofRecordText? (s : String) : Option Date :=
  recordSpellings.findSome? fun read => (read (Text.trim s).toList).toOption

end SalesLedger.Calendar
