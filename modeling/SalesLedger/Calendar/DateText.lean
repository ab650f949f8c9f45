import SalesLedger.Calendar.Date
import SalesLedger.Text.Ascii
import SalesLedger.Text.Blank

/-!
# Dates as text

A date is written as year, month and day with hyphens; the year has at least four digits, and a
sign where it is below zero or above 9999. Reading is more lenient: blanks may precede each number,
month and day may have one digit, and a year with a sign may have any number of digits.

Main statement: `readDigits_length_le`, a reader of a given width takes no more digits than that.
-/

namespace SalesLedger.Calendar

/-! ## Writing -/

/-- A number with at least `width` digits. -/
def padded (width n : Nat) : List Char :=
  let digits := Nat.toDigits 10 n
  List.replicate (width - digits.length) '0' ++ digits

/-- A year with at least four digits, signed outside 0 to 9999. -/
def yearChars (year : Int) : List Char :=
  if year < 0 then '-' :: padded 4 year.natAbs
  else if 9999 < year then '+' :: padded 4 year.natAbs
  else padded 4 year.natAbs

def Date.monthText (d : Date) : String :=
  String.ofList (yearChars d.year ++ '-' :: padded 2 d.month)

/-- Year, month and day. -/
def Date.text (d : Date) : String :=
  String.ofList (yearChars d.year ++ '-' :: padded 2 d.month ++ '-' :: padded 2 d.day)

/-- The short name of a month. -/
def monthName (month : Nat) : String :=
  ["Jan", "Feb", "Mar", "Apr", "May", "Jun", "Jul", "Aug", "Sep", "Oct", "Nov", "Dec"].getD
    (month - 1) ""

/-! ## Reading -/

/-- Why a text is no date. -/
inductive DateFault where
  | unexpected
  | tooShort
  | trailing
  | outOfRange
  deriving Repr, DecidableEq

/-- What a message says about it. -/
def DateFault.message : DateFault → String
  | .unexpected => "input contains invalid characters"
  | .tooShort => "premature end of input"
  | .trailing => "trailing input"
  | .outOfRange => "input is out of range"

/-- Appends at most `width` digits to a number. -/
def readDigits : Nat → Nat → List Char → Nat × List Char
  | 0, n, cs => (n, cs)
  | _ + 1, n, [] => (n, [])
  | width + 1, n, c :: cs =>
    match Text.digit? c with
    | some d => readDigits width (n * 10 + d) cs
    | none => (n, c :: cs)

/-- A number of one digit at least and `width` at most. -/
def readNumber (width : Nat) (cs : List Char) : Except DateFault (Nat × List Char) :=
  match cs with
  | [] => .error .tooShort
  | c :: _ =>
    match Text.digit? c with
    | some _ => .ok (readDigits width 0 cs)
    | none => .error .unexpected

/-- A number within bounds, blanks before it allowed. -/
def readField (low high : Nat) (cs : List Char) : Except DateFault (Nat × List Char) := do
  let (n, rest) ← readNumber 2 (Text.skipBlanks cs)
  if low ≤ n ∧ n ≤ high then pure (n, rest) else throw .outOfRange

/-- A number with a sign, or one of at most four digits without. -/
def readSigned (cs : List Char) : Except DateFault (Int × List Char) :=
  match cs with
  | '-' :: rest => (readNumber rest.length rest).map fun r => (-(r.1 : Int), r.2)
  | '+' :: rest => (readNumber rest.length rest).map fun r => ((r.1 : Int), r.2)
  | _ => (readNumber 4 cs).map fun r => ((r.1 : Int), r.2)

/-- A year, blanks before it allowed. -/
def readYear (cs : List Char) : Except DateFault (Int × List Char) := do
  let (year, rest) ← readSigned (Text.skipBlanks cs)
  if -0x80000000 ≤ year ∧ year < 0x80000000 then pure (year, rest) else throw .outOfRange

/-- A fixed character. -/
def readMark (mark : Char) (cs : List Char) : Except DateFault (List Char) :=
  match cs with
  | [] => .error .tooShort
  | c :: rest => if c == mark then .ok rest else .error .unexpected

/-- Nothing may be left. -/
def readEnd (cs : List Char) : Except DateFault Unit :=
  if cs.isEmpty then .ok () else .error .trailing

/-- Year, month and day that are in the calendar. -/
def toDate (year : Int) (month day : Nat) : Except DateFault Date :=
  match Date.of? year month day with
  | some d => .ok d
  | none => .error .outOfRange

/-- Year, month and day with a mark between them. -/
def readParts (mark : Char) (cs : List Char) :
    Except DateFault ((Int × Nat × Nat) × List Char) := do
  let (year, cs) ← readYear cs
  let (month, cs) ← readField 1 12 (← readMark mark cs)
  let (day, cs) ← readField 1 31 (← readMark mark cs)
  pure ((year, month, day), cs)

/-- A date with a mark between its parts and nothing after it. -/
def Date.read (mark : Char) (cs : List Char) : Except DateFault Date := do
  let ((year, month, day), rest) ← readParts mark cs
  readEnd rest
  toDate year month day

/-- A date as a field of a sale or of a command line: blanks may also stand before a hyphen and at
the end. -/
def Date.readLoose (s : String) : Except DateFault Date := do
  let (year, cs) ← readYear s.toList
  let (month, cs) ← readField 1 12 (← readMark '-' (Text.skipBlanks cs))
  let (day, cs) ← readField 1 31 (← readMark '-' (Text.skipBlanks cs))
  readEnd (Text.skipBlanks cs)
  toDate year month day

/-! ## Laws -/

theorem readDigits_length_le (width n : Nat) (cs : List Char) :
    cs.length ≤ (readDigits width n cs).2.length + width := by
  induction width generalizing n cs with
  | zero => simp [readDigits]
  | succ width ih =>
    cases cs with
    | nil => simp [readDigits]
    | cons c cs =>
      rw [readDigits]
      split
      · rename_i d _
        have := ih (n * 10 + d) cs
        simp only [List.length_cons]
        omega
      · simp

end SalesLedger.Calendar
