import SalesLedger.Calendar.DateText
import SalesLedger.Text.Case

/-!
# Periods

A period is named by a word or given as a range of two dates. Relative to a day it stands for a
window of dates, or for a year, or for no restriction. A text that is no period restricts nothing.

Main statement: `Period.splitRange_ne_nil`, a text has at least one piece.
-/

namespace SalesLedger.Calendar

/-- What a period restricts a sale's date to. -/
inductive Window where
  /-- From one day to another, both included. -/
  | between (start stop : Date)
  /-- The days of a year. -/
  | year (year : Int)
  deriving DecidableEq

/-- A period as it is asked for. -/
inductive Period where
  | thisMonth
  | lastMonth
  | thisQuarter
  | lastQuarter
  | yearToDate
  | allTime
  | range (start stop : Date)
  deriving DecidableEq

/-- Why a text is no period. -/
inductive PeriodFault where
  | unsupported (token : String)
  | invalidRange (token : String)
  deriving Repr, DecidableEq

/-- What a message says about it. -/
def PeriodFault.message : PeriodFault → String
  | .unsupported token => "unsupported time period '" ++ token ++ "'"
  | .invalidRange token => "invalid date range '" ++ token ++ "'"

namespace Period

def named : List (String × Period) :=
  [("this_month", thisMonth), ("last_month", lastMonth), ("this_quarter", thisQuarter),
    ("last_quarter", lastQuarter), ("ytd", yearToDate), ("all_time", allTime)]

def text : Period → String
  | thisMonth => "this_month"
  | lastMonth => "last_month"
  | thisQuarter => "this_quarter"
  | lastQuarter => "last_quarter"
  | yearToDate => "ytd"
  | allTime => "all_time"
  | range start stop => start.text ++ " to " ++ stop.text

/-- The pieces of a text between its marks ` to `. -/
def splitRange : List Char → List (List Char)
  | [] => [[]]
  | ' ' :: 't' :: 'o' :: ' ' :: rest => [] :: splitRange rest
  | c :: rest =>
    match splitRange rest with
    | piece :: pieces => (c :: piece) :: pieces
    | [] => [[c]]

/-- Reads a period: a name in any case, or two dates with the mark ` to ` between them. -/
def parse (raw : String) : Except PeriodFault Period :=
  let token := Text.trim raw
  match named.lookup (Text.lowerAscii token) with
  | some p => .ok p
  | none =>
    match splitRange token.toList with
    | [_] => .error (.unsupported token)
    | [start, stop] =>
      match Date.read '-' (Text.trimChars start), Date.read '-' (Text.trimChars stop) with
      | .ok start, .ok stop => .ok (range start stop)
      | _, _ => .error (.invalidRange token)
    | _ => .error (.invalidRange token)

/-- From the first day of one counted month to the last day of another, both in the calendar. -/
def months? (first last : Int) : Option Window := do
  pure (.between (← Date.firstOf? first) (← Date.lastOf? last))

/-- What the period means on a day. Nothing, where it does not restrict or leaves the calendar. -/
def window? (today : Date) : Period → Option Window
  | thisMonth => months? today.monthIndex today.monthIndex
  | lastMonth => months? (today.monthIndex - 1) (today.monthIndex - 1)
  | thisQuarter => months? today.quarterIndex (today.quarterIndex + 2)
  | lastQuarter => months? (today.quarterIndex - 3) (today.quarterIndex - 1)
  | yearToDate => some (.year today.year)
  | allTime => none
  | range start stop => some (.between start stop)

end Period

/-- What a text restricts sales to on a day. A text that is no period restricts nothing. -/
def resolveWindow? (token : String) (today : Date) : Option Window :=
  match Period.parse token with
  | .ok period => period.window? today
  | .error _ => none

/-- Whether a date lies in a window. -/
def Window.contains : Window → Date → Bool
  | .between start stop, d => start ≤ d ∧ d ≤ stop
  | .year y, d => d.year == y

/-! ## Laws -/

theorem Period.splitRange_ne_nil (cs : List Char) : splitRange cs ≠ [] := by
  fun_cases splitRange cs <;> simp_all

end SalesLedger.Calendar
