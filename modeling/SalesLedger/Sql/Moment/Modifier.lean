import SalesLedger.Sql.Moment.Reader

/-!
# Modifiers of moments

What a text does to a moment: it explains the number that the moment was given as, goes back to the
start of a day, month or year, goes on to a day of the week, or adds a span of time. A span is a
number of units, a time of day with a sign, or years, months and days with a sign. Months and years
keep the day of the month, which then counts on into the next month where it has to.

Main statement: `modified_nil`, no modifiers change nothing.
-/

namespace SalesLedger.Sql.Moment

/-! ## Explaining a number -/

/-- The moment of a number of seconds since the epoch. -/
def ofSeconds (m : Moment) (x : Float) : Moment :=
  { m.atInstant (truncate (x * 1000 + 210866760000000 + 0.5)) with number? := none }

/-- A number as days, if it can count days, or as seconds. -/
def guessed (m : Moment) : Moment :=
  match m.number?, m.instant? with
  | some x, none =>
    if -210866760000.0 ≤ x ∧ x ≤ 253402300799.0 then m.ofSeconds x else m
  | _, _ => { m with number? := none }

def explainedAsDays (m : Moment) : Except MomentFault Moment :=
  if m.number?.isSome ∧ m.instant?.isSome then .ok { m with number? := none }
  else .error .unreadable

def explainedAsSeconds (m : Moment) : Except MomentFault Moment :=
  match m.number? with
  | some x =>
    let millis := x * 1000 + 210866760000000
    if 0 ≤ millis ∧ millis < 464269060800000 then .ok (m.ofSeconds x) else .error .unreadable
  | none => .error .unreadable

/-! ## Going back and on -/

def isEmpty (m : Moment) : Bool :=
  m.instant?.isNone && m.day?.isNone && m.clock?.isNone

/-- The first moment of a day. -/
def midnight : Clock := ⟨0, 0, 0⟩

/-- The start of a day, month or year. -/
def startOf (m : Moment) (unit : String) : Except MomentFault Moment :=
  let begin? : Option (Day → Day) :=
    if unit = "month" then some fun (year, month, _) => (year, month, 1)
    else if unit = "year" then some fun (year, _, _) => (year, 1, 1)
    else if unit = "day" then some id
    else none
  match m.isEmpty, begin? with
  | false, some begin => do
    let m ← m.withDay
    let day := begin (m.day?.getD usualDay)
    pure
      { m with
        day? := some day, clock? := some midnight, instant? := none, number? := none, offset := 0 }
  | _, _ => .error .unreadable

/-- The next day of the week with a number, or the day itself. -/
def weekday (m : Moment) (wanted : Int) : Except MomentFault Moment := do
  let m ← { (← m.withParts) with offset := 0 }.recounted
  let instant := m.instant?.getD 0
  let here := ((instant + 129600000).tdiv dayMillis).tmod 7
  let back := if wanted < here then here - 7 else here
  pure (m.atInstant (instant + (wanted - back) * dayMillis))

/-! ## Adding a span -/

/-- The moment with years and months added. The month may leave the year. -/
def addMonths (m : Moment) (years months : Int) : Except MomentFault Moment := do
  let m ← m.withParts
  let (year, month, day) := m.day?.getD usualDay
  let month := month + months
  let carried := if 0 < month then (month - 1).tdiv 12 else (month - 12).tdiv 12
  pure
    { m with day? := some (year + years + carried, month - carried * 12, day), instant? := none }

/-- The moment with milliseconds added. -/
def addMillis (m : Moment) (millis : Int) : Except MomentFault Moment := do
  let m ← m.withInstant
  pure (m.atInstant (m.instant?.getD 0 + millis))

/-- A unit of time: its name, the numbers of it that may be added, and its seconds. -/
structure TimeUnit where
  name : String
  bound : Float
  seconds : Float

def timeUnits : List TimeUnit :=
  [⟨"second", 464270000000000, 1⟩, ⟨"minute", 7737900000000, 60⟩, ⟨"hour", 128970000000, 3600⟩,
    ⟨"day", 5373485, 86400⟩, ⟨"month", 176546, 2592000⟩, ⟨"year", 14713, 31536000⟩]

/-- The moment with a number of units added. A part of a month or year counts as one of 30 or 365
days. -/
def addUnits (m : Moment) (x : Float) (unit : String) : Except MomentFault Moment :=
  match timeUnits.find? fun u => u.name = unit ∧ -u.bound < x ∧ x < u.bound with
  | none => .error .unreadable
  | some u => do
    let m ← m.withInstant
    let half : Float := if x < 0 then -0.5 else 0.5
    let whole := truncate x
    let (m, x) ←
      if u.name = "month" then do pure (← m.addMonths 0 whole, x - Float.ofInt whole)
      else if u.name = "year" then do pure (← m.addMonths whole 0, x - Float.ofInt whole)
      else pure (m, x)
    m.addMillis (truncate (x * 1000 * u.seconds + half))

/-- The moment with a time of day added, or taken away. -/
def addTime (m : Moment) (isNegative : Bool) (cs : List Char) : Except MomentFault Moment :=
  match ofTime? cs with
  | none => .error .unreadable
  | some t => do
    let instant := (← t.withInstant).instant?.getD 0 - dayMillis / 2
    let millis := instant - instant.tdiv dayMillis * dayMillis
    m.addMillis (if isNegative then -millis else millis)

/-- The characters of a number at the start of a span: up to a colon, a blank, or the hyphen behind
a year. -/
def spanNumber (cs : List Char) : Nat :=
  let isYear (n : Nat) : Bool := (digits? (n - 1) 0 14712 (cs.drop 1)).isSome
  let ends (n : Nat) : Bool :=
    match cs[n]? with
    | none => true
    | some c => c == ':' || Text.isAsciiBlank c || c == '-' && (n == 5 || n == 6) && isYear n
  ((List.range (cs.length + 1)).find? fun n => 0 < n && ends n).getD cs.length

/-- The time of day that may follow a span of years, months and days: nothing, or a bare time behind
a blank, seconds and all. -/
def timeBehind? (cs : List Char) : Option (Option (List Char)) :=
  match cs with
  | [] => some none
  | c :: rest =>
    if Text.isAsciiBlank c && (hoursAndMinutes? 24 rest).isSome then some (some rest) else none

/-- The moment with a span of years, months and days added, and a time of day where one follows. -/
def addDate (m : Moment) (isNegative : Bool) (width : Nat) (cs : List Char) :
    Except MomentFault Moment :=
  match yearMonthDay? width 0 11 30 cs with
  | none => .error .unreadable
  | some (years, months, days, rest) =>
    match timeBehind? rest with
    | none => .error .unreadable
    | some time? => do
      let signed (n : Nat) : Int := if isNegative then -(n : Int) else n
      let m ← (← m.addMonths (signed years) (signed months)).withInstant
      let m := m.atInstant (m.instant?.getD 0 + signed days * dayMillis)
      match time? with
      | none => pure m
      | some rest => m.addTime isNegative rest

/-- The moment with a span of time added. -/
def addSpan (m : Moment) (cs : List Char) : Except MomentFault Moment :=
  let n := spanNumber cs
  let reading := Numeral.read (cs.take n)
  let isNegative := cs.head? = some '-'
  let isSigned := isNegative || cs.head? = some '+'
  if !reading.wellFormed then .error .unreadable
  else
    match cs.drop n with
    | '-' :: _ => if isSigned then m.addDate isNegative (n - 1) (cs.drop 1) else .error .unreadable
    | ':' :: _ => m.addTime isNegative (if isSigned then cs.drop 1 else cs)
    | rest =>
      let unit := Text.lowerAscii (String.ofList (Numeral.skipBlanks rest))
      let letters := unit.toList
      if letters.length < 3 ∨ 10 < letters.length then .error .unreadable
      else
        let isPlural := letters.getLast? = some 's'
        m.addUnits reading.value (if isPlural then String.ofList letters.dropLast else unit)

/-! ## Modifiers -/

/-- The number of a day of the week that a text spells. -/
def weekday? (cs : List Char) : Option Int :=
  let reading := Numeral.read cs
  let n := truncate reading.value
  let isDay := 0 ≤ reading.value ∧ reading.value < 7 ∧ Float.ofInt n == reading.value
  if reading.wellFormed ∧ isDay then some n else none

/-- What stands behind a beginning of a text. -/
def behind? (beginning : String) (s : String) : Option (List Char) :=
  if beginning.toList.isPrefixOf s.toList then some (s.toList.drop beginning.length) else none

/-- The words that ask where one is. -/
def localWords : List String := ["localtime", "utc"]

/-- The moment that a modifier makes of one. Only the first modifier may explain a number. Universal
time is local time here. -/
def modify (isSteady isFirst : Bool) (m : Moment) (s : String) : Except MomentFault Moment :=
  let cs := s.toList.takeWhile fun c => c.toNat != 0
  let word := Text.lowerAscii (String.ofList cs)
  if word = "auto" then if isFirst then .ok m.guessed else .error .unreadable
  else if word = "julianday" then if isFirst then m.explainedAsDays else .error .unreadable
  else if word = "unixepoch" then if isFirst then m.explainedAsSeconds else .error .unreadable
  else if localWords.contains word then
    if isSteady then .error .unsteady else do (← m.withInstant).withParts
  else if word = "subsec" ∨ word = "subsecond" then .ok { m with isFine := true }
  else
    match behind? "start of " word, (behind? "weekday " word).bind weekday?, cs.head? with
    | some unit, _, _ => m.startOf (String.ofList unit)
    | none, some n, _ => m.weekday n
    | none, none, some c =>
      if c == '+' || c == '-' || Text.isDigit c then m.addSpan cs else .error .unreadable
    | none, none, none => .error .unreadable

/-- The moment after all modifiers. A moment that cannot be counted is lost, unless a modifier
behind asks where one is; those behind are looked at all the same. -/
def modifyAll (isSteady : Bool) : Bool → Bool → Moment → List Cell → Except MomentFault Moment
  | _, isLost, m, [] => if isLost then .error .outOfRange else .ok m
  | isFirst, isLost, m, c :: cs =>
    match c.bytes? with
    | none => .error .unreadable
    | some bytes =>
      let s := Text.Utf8.ofBytes bytes
      let isLocal := localWords.contains (Text.lowerAscii s)
      match m.modify isSteady isFirst s with
      | .ok m => modifyAll isSteady false (isLost && !isLocal) m cs
      | .error .outOfRange => modifyAll isSteady false (!isLocal) {} cs
      | .error f => .error f

/-- The moment that values name: the first one names it, the others modify it. Without any it is the
present. -/
def ofCells (isSteady : Bool) : List Cell → Except MomentFault Moment
  | [] => if isSteady then .error .unsteady else .ok present
  | [c] => do (← ofCell isSteady c).alone
  | c :: cs => do (← modifyAll isSteady true false (← ofCell isSteady c) cs).settled

/-! ## Laws -/

theorem modified_nil (isSteady isFirst : Bool) (m : Moment) :
    modifyAll isSteady isFirst false m [] = .ok m := rfl

end SalesLedger.Sql.Moment
