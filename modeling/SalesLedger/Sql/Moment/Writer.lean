import SalesLedger.Calendar.DateText
import SalesLedger.Sql.Format
import SalesLedger.Sql.Moment.Modifier

/-!
# Writing moments

A moment as a date, a time of day or both, as a number of days or seconds, and by a pattern of
letters behind percent signs. The time between two moments is written in years, months, days and a
time of day.

Main statement: `pattern_nil`, an empty pattern writes nothing.
-/

namespace SalesLedger.Sql.Moment

/-! ## Parts -/

/-- A number with at least `width` characters, its sign among them. -/
def paddedChars (width : Nat) (n : Int) : List Char :=
  if n < 0 then '-' :: Calendar.padded (width - 1) n.natAbs else Calendar.padded width n.natAbs

/-- A number with two characters, of which the first may be a space. -/
def spaced (n : Int) : List Char :=
  let digits := (toString n).toList
  List.replicate (2 - digits.length) ' ' ++ digits

def yearText (year : Int) : String :=
  String.ofList (paddedChars 4 year)

def monthText (year month : Int) : String :=
  String.ofList (paddedChars 4 year ++ '-' :: paddedChars 2 month)

/-- Year, month and day, with the digits of the year behind its sign. -/
def dayChars : Day → List Char
  | (year, month, day) =>
    (if year < 0 then ['-'] else []) ++ Calendar.padded 4 year.natAbs ++ '-' ::
      paddedChars 2 month ++ '-' :: paddedChars 2 day

/-- Whole seconds, or seconds with three digits behind a point. -/
def secondChars (isFine : Bool) (s : Float) : List Char :=
  if isFine then
    let millis := truncate (1000 * s + 0.5)
    paddedChars 2 (millis.tdiv 1000) ++ '.' :: paddedChars 3 (millis.tmod 1000)
  else paddedChars 2 (truncate s)

/-- Hours, minutes and seconds. -/
def Clock.chars (isFine : Bool) (c : Clock) : List Char :=
  paddedChars 2 c.hour ++ ':' :: paddedChars 2 c.minute ++ ':' :: secondChars isFine c.second

/-- A moment's day and time of day. -/
def parts (m : Moment) : Day × Clock :=
  (m.day?.getD usualDay, m.clock?.getD midnight)

/-! ## Whole moments -/

def dateText (m : Moment) : Except MomentFault String := do
  pure (String.ofList (dayChars (← m.withDay).parts.1))

def timeText (m : Moment) : Except MomentFault String := do
  pure (String.ofList ((← m.withClock).parts.2.chars m.isFine))

/-- The day and the time of day. -/
def dateTimeText (m : Moment) : Except MomentFault String := do
  let (day, clock) := (← m.withParts).parts
  pure (String.ofList (dayChars day ++ ' ' :: clock.chars m.isFine))

/-- The number of Julian days. -/
def julianDays (m : Moment) : Float :=
  Float.ofInt (m.instant?.getD 0) / 86400000

/-- The number of seconds since the epoch, with their fraction or without. -/
def seconds (m : Moment) : Cell :=
  let instant := m.instant?.getD 0
  if m.isFine then .real (Float.ofInt (instant - epoch) / 1000)
  else .integer (instant.tdiv 1000 - epoch / 1000)

/-! ## Patterns -/

/-- The number of the day in its year, from zero. -/
def dayOfYear (m : Moment) : Int :=
  let (year, _, _) := m.parts.1
  match ({ m with day? := some (year, 1, 1) } : Moment).recounted with
  | .ok start => (m.instant?.getD 0 - start.instant?.getD 0 + dayMillis / 2).tdiv dayMillis
  | .error _ => 0

/-- The day of the week, from Monday on. -/
def dayOfWeek (m : Moment) : Int :=
  ((m.instant?.getD 0 + dayMillis / 2).tdiv dayMillis).tmod 7

/-- The hour as clocks with twelve hours show it. -/
def twelveHour (h : Int) : Int :=
  let h := if 12 < h then h - 12 else h
  if h = 0 then 12 else h

/-- What a letter of a pattern stands for. -/
def letter? (m : Moment) (letter : Char) : Option (List Char) :=
  let ((year, month, day), clock) := m.parts
  let hourAndMinute := paddedChars 2 clock.hour ++ ':' :: paddedChars 2 clock.minute
  match letter with
  | 'd' => some (paddedChars 2 day)
  | 'e' => some (spaced day)
  | 'f' =>
    let s := if clock.second > 59.999 then 59.999 else clock.second
    some (Format.double ⟨false, none, false, false, true, false, 6, some 3⟩ .positional s)
  | 'F' => some (paddedChars 4 year ++ '-' :: paddedChars 2 month ++ '-' :: paddedChars 2 day)
  | 'H' => some (paddedChars 2 clock.hour)
  | 'k' => some (spaced clock.hour)
  | 'I' => some (paddedChars 2 (twelveHour clock.hour))
  | 'l' => some (spaced (twelveHour clock.hour))
  | 'j' => some (paddedChars 3 (m.dayOfYear + 1))
  | 'W' => some (paddedChars 2 ((m.dayOfYear + 7 - m.dayOfWeek).tdiv 7))
  | 'J' => some (Format.double { precision? := some 16 } (.shorter 'e') m.julianDays)
  | 'm' => some (paddedChars 2 month)
  | 'M' => some (paddedChars 2 clock.minute)
  | 'p' => some (if 12 ≤ clock.hour then ['P', 'M'] else ['A', 'M'])
  | 'P' => some (if 12 ≤ clock.hour then ['p', 'm'] else ['a', 'm'])
  | 'R' => some hourAndMinute
  | 's' =>
    match m.seconds with
    | .real x => some (Format.double { precision? := some 3 } .positional x)
    | c => (c.bytes?).map Text.Bytes.chars
  | 'S' => some (paddedChars 2 (truncate clock.second))
  | 'T' => some (hourAndMinute ++ ':' :: paddedChars 2 (truncate clock.second))
  | 'u' => some (toString (m.dayOfWeek + 1)).toList
  | 'w' => some (toString ((m.dayOfWeek + 1).tmod 7)).toList
  | 'Y' => some (paddedChars 4 year)
  | '%' => some ['%']
  | _ => none

/-- A moment by a pattern, each byte of which is looked at as a character. Nothing for letters that
stand for nothing. -/
def pattern (m : Moment) : List Char → Option (List Char)
  | [] => some []
  | ['%'] => none
  | '%' :: c :: cs => do
    let here ← m.letter? c
    pure (here ++ (← pattern m cs))
  | c :: cs => (pattern m cs).map (c :: ·)

/-! ## Time between moments -/

/-- Takes months back from a number of years and months. -/
def lessMonth : Int × Int → Int × Int
  | (years, months) => if months < 1 then (years - 1, 11) else (years, months - 1)

/-- Moves a moment by months until it is no longer `past` the other one; counts down the years and
months between the two. So many months are tried at most. -/
def approach (past : Int → Bool) (step : Int) : Nat → Moment → Int × Int →
    Except MomentFault (Moment × (Int × Int))
  | 0, m, between => .ok (m, between)
  | fuel + 1, m, between =>
    if past (m.instant?.getD 0) then do
      let (year, month, day) := m.parts.1
      let month := month + step
      let day? : Option Day :=
        if month < 1 then some (year - 1, 12, day)
        else if 12 < month then some (year + 1, 1, day)
        else some (year, month, day)
      approach past step fuel (← recounted { m with day? }) (lessMonth between)
    else .ok (m, between)

/-- The time from one moment to another, with a sign. -/
def difference (a b : Moment) : Except MomentFault String := do
  let a ← a.withParts
  let b ← b.withParts
  let (first, second) := (a.instant?.getD 0, b.instant?.getD 0)
  let isAhead := second ≤ first
  let ((year₁, month₁, _), (year₂, month₂, day₂)) := (a.parts.1, b.parts.1)
  let (years, months) :=
    if isAhead then (year₁ - year₂, month₁ - month₂) else (year₂ - year₁, month₂ - month₁)
  let between := if months < 0 then (years - 1, months + 12) else (years, months)
  let past (instant : Int) : Bool := if isAhead then first < instant else instant < first
  let b ←
    if (year₁, month₁) = (year₂, month₂) then pure b
    else recounted { b with day? := some (year₁, month₁, day₂) }
  let (b, (years, months)) ← approach past (if isAhead then -1 else 1) 24 b between
  let rest := (first - b.instant?.getD 0).natAbs
  let m ← ({} : Moment).atInstant (148699540800000 + rest) |>.withParts
  let ((_, _, day), clock) := m.parts
  let seconds := Format.double ⟨false, none, false, false, true, false, 6, some 3⟩ .positional
    clock.second
  pure (String.ofList ((if isAhead then '+' else '-') :: paddedChars 4 years ++ '-' ::
    paddedChars 2 months ++ '-' :: paddedChars 2 (day - 1) ++ ' ' :: paddedChars 2 clock.hour ++
    ':' :: paddedChars 2 clock.minute ++ ':' :: seconds))

/-! ## Laws -/

theorem pattern_nil (m : Moment) : m.pattern [] = some [] := rfl

end SalesLedger.Sql.Moment
