import SalesLedger.Sql.Moment.Basic
import SalesLedger.Sql.CellText
import SalesLedger.Sql.Numeral
import SalesLedger.Text.Case

/-!
# Reading moments

The moment that a cell's value names. A text names a moment as a date with four, two and two digits,
possibly a time after it and an offset after that, or as a time alone, as a number, or by a word for
the present; a number is a number of days, unless a modifier says otherwise. A moment with an offset
is moved to universal time, and a day past the end of its month counts on into the next.

Main statement: `day?_ofText`, by example: which day a text names.
-/

namespace SalesLedger.Sql.Moment

/-! ## Digits and marks -/

/-- Exactly so many digits, whose number is within bounds. -/
def digits? (count low high : Nat) (cs : List Char) : Option (Nat × List Char) := do
  let (ds, rest) := cs.splitAt count
  let n ← if ds.length = count then Text.decimal? ds else none
  if low ≤ n ∧ n ≤ high then some (n, rest) else none

/-- A fixed character. -/
def mark? (c : Char) : List Char → Option (List Char)
  | d :: rest => if c == d then some rest else none
  | [] => none

/-- Hours and minutes with a colon between them. -/
def hoursAndMinutes? (highest : Nat) (cs : List Char) : Option (Nat × Nat × List Char) := do
  let (hours, rest) ← digits? 2 0 highest cs
  let (minutes, rest) ← digits? 2 0 59 (← mark? ':' rest)
  pure (hours, minutes, rest)

/-- Year, month and day with hyphens between them. The month is at least `least`, and so is the
day. -/
def yearMonthDay? (width least highestMonth highestDay : Nat) (cs : List Char) :
    Option (Nat × Nat × Nat × List Char) := do
  let (y, rest) ← digits? width 0 14712 cs
  let (m, rest) ← digits? 2 least highestMonth (← mark? '-' rest)
  let (d, rest) ← digits? 2 least highestDay (← mark? '-' rest)
  pure (y, m, d, rest)

/-- The minutes of an offset, with blanks around it, up to the end. -/
def offset? (cs : List Char) : Option Int :=
  let ended (minutes : Int) (rest : List Char) : Option Int :=
    if (Numeral.skipBlanks rest).isEmpty then some minutes else none
  match Numeral.skipBlanks cs with
  | [] => some 0
  | c :: rest =>
    if c == 'Z' || c == 'z' then ended 0 rest
    else if c == '-' || c == '+' then do
      let (hours, minutes, rest) ← hoursAndMinutes? 14 rest
      let total : Int := hours * 60 + minutes
      ended (if c == '-' then -total else total) rest
    else none

/-- The digits of a fraction and what follows: the number they spell and the power of ten that
divides it, as doubles. -/
def fraction (n scale : Float) : List Char → Float × Float × List Char
  | [] => (n, scale, [])
  | c :: cs =>
    match Text.digit? c with
    | some d => fraction (n * 10 + Float.ofNat d) (scale * 10) cs
    | none => (n, scale, c :: cs)

/-- A time of day up to the end, and the minutes of its offset. -/
def time? (cs : List Char) : Option (Clock × Int) := do
  let (hours, minutes, rest) ← hoursAndMinutes? 24 cs
  let (seconds, rest) ←
    match rest with
    | ':' :: rest => do
      let (s, rest) ← digits? 2 0 59 rest
      match rest with
      | '.' :: d :: more =>
        if Text.isDigit d then
          let (n, scale, rest) := fraction 0 1 (d :: more)
          pure (Float.ofNat s + n / scale, rest)
        else pure (Float.ofNat s, rest)
      | _ => pure (Float.ofNat s, rest)
    | _ => pure (0, rest)
  pure (⟨hours, minutes, seconds⟩, ← offset? rest)

/-! ## Values -/

/-- The moment of a time of day. -/
def ofTime? (cs : List Char) : Option Moment :=
  (time? cs).map fun (clock, offset) => { clock? := some clock, offset }

/-- The moment of a date, alone or with a time of day. -/
def ofDate? (cs : List Char) : Option Moment := do
  let (isNegative, cs) : Bool × List Char :=
    match cs with
    | '-' :: rest => (true, rest)
    | _ => (false, cs)
  let (y, m, d, cs) ← yearMonthDay? 4 1 12 31 cs
  let day : Day := (if isNegative then -(y : Int) else y, m, d)
  let rest := cs.dropWhile fun c => Text.isAsciiBlank c || c == 'T'
  if rest.isEmpty then pure { day? := some day }
  else
    let (clock, offset) ← time? rest
    pure { day? := some day, clock? := some clock, offset }

/-- The moment of a number, which may count days. -/
def ofNumber (x : Float) : Moment :=
  { number? := some x
    instant? :=
      if x ≥ 0 && x < 5373484.5 then some (truncate (x * 86400000 + 0.5)) else none }

/-- The present moment. There is no clock here: time stands still at one instant. -/
def present : Moment := { instant? := some 212660251200000 }

/-- The moment that a text names. Where nothing may depend on the clock, none is the present
one. -/
def ofText (isSteady : Bool) (s : String) : Except MomentFault Moment :=
  let cs := s.toList.takeWhile fun c => c.toNat != 0
  let word := Text.lowerAscii (String.ofList cs)
  let reading := Numeral.read cs
  match ofDate? cs, ofTime? cs with
  | some m, _ => if m.offset = 0 then .ok m else m.withInstant
  | none, some m => .ok m
  | none, none =>
    if word = "now" then if isSteady then .error .unsteady else .ok present
    else if reading.wellFormed then .ok (ofNumber reading.value)
    else if word = "subsec" ∨ word = "subsecond" then
      if isSteady then .error .unsteady else .ok { present with isFine := true }
    else .error .unreadable

/-- The moment that a cell names. -/
def ofCell (isSteady : Bool) : Cell → Except MomentFault Moment
  | .null => .error .unreadable
  | .integer n => .ok (ofNumber (Float.ofInt n))
  | .real x => .ok (ofNumber x)
  | c => ofText isSteady (c.spelled?.getD "")

/-- A moment whose instant is known and counts. -/
def settled (m : Moment) : Except MomentFault Moment := do
  let m ← m.withInstant
  if m.instant?.any counts then pure m else throw .unreadable

/-- A moment that nothing changes any more. Its day is counted anew where it may be out of its
month. -/
def alone (m : Moment) : Except MomentFault Moment := do
  let m ← m.settled
  if m.day?.any fun d => 28 < d.2.2 then pure { m with day? := none } else pure m

/-- The day that a cell names. -/
def dayOfCell? (c : Cell) : Option Day :=
  match ofCell false c >>= alone >>= withDay with
  | .ok m => m.day?
  | .error _ => none

/-! ## Examples -/

theorem day?_ofText :
    dayOfCell? (.text "2025-02-10") = some (2025, 2, 10) ∧
      dayOfCell? (.text "2025-02-31") = some (2025, 3, 3) ∧
      dayOfCell? (.text "2025-01-01T00:30:00+05:45") = some (2024, 12, 31) := by
  decide +kernel

end SalesLedger.Sql.Moment
