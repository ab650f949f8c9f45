import SalesLedger.Sql.Builtin.Text
import SalesLedger.Sql.Moment.Writer

/-!
# Functions of moments

The functions that write the moment which their arguments name: as a date, a time of day, a number,
or by a pattern. A pattern comes before what names the moment. Where nothing may depend on the
clock, a function that would read it fails.

Main statement: `orNull_unreadable`, where no moment is named there is no value.
-/

namespace SalesLedger.Sql.Builtin

/-- The value of what is said of a moment; nothing, where none is named. A function that fails gives
its name and that of the place where it stands. -/
def orNull (function place : String) (v : Except MomentFault Value) : Answer :=
  match v with
  | .ok v => .ok v
  | .error .unreadable | .error .outOfRange => .ok .null
  | .error .unsteady => .error (.unsteady function place)

/-- The text of bytes looked at as characters, or nothing. -/
def ofChars? (cs : Option (List Char)) : Value :=
  match cs with
  | some cs => .ofBytes (Text.Bytes.ofChars cs)
  | none => .null

def patterned (isSteady : Bool) (pattern : Cell) (args : List Cell) : Except MomentFault Value :=
  match pattern.bytes? with
  | none => .ok .null
  | some bytes => do
    let m ← (← Moment.ofCells isSteady args).withParts
    pure (ofChars? (m.pattern (Text.Bytes.chars (Text.Bytes.upToZero bytes))))

/-- What a function says of the moment that cells name. -/
def moment? (name : String) (isSteady : Bool) (cs : List Cell) :
    Option (Except MomentFault Value) :=
  let ofText (write : Moment → Except MomentFault String) : Except MomentFault Value := do
    pure (.text (← write (← Moment.ofCells isSteady cs)))
  match name, cs with
  | "date", _ => some (ofText Moment.dateText)
  | "time", _ => some (ofText Moment.timeText)
  | "datetime", _ => some (ofText Moment.dateTimeText)
  | "julianday", _ =>
    some do pure (.ofCell (.real (← (← Moment.ofCells isSteady cs).withInstant).julianDays))
  | "unixepoch", _ =>
    some do pure (.ofCell (← (← Moment.ofCells isSteady cs).withInstant).seconds)
  | "strftime", [] => some (.ok .null)
  | "strftime", pattern :: args => some (patterned isSteady pattern args)
  | "timediff", [a, b] =>
    some do
      let a ← Moment.ofCells isSteady [a]
      let b ← Moment.ofCells isSteady [b]
      pure (.text (← a.difference b))
  | _, _ => none

/-- The function of the present moment with a name. -/
def present? (name : String) (cs : List Cell) : Option (Except MomentFault Value) :=
  match name, cs with
  | "current_date", [] => moment? "date" false []
  | "current_time", [] => moment? "time" false []
  | "current_timestamp", [] => moment? "datetime" false []
  | _, _ => none

/-- The function of moments with a name, for arguments of its number. A place is given where nothing
may depend on the clock; words for the present do so anywhere. -/
def time? (steadyPlace? : Option String) (name : String) (args : List Value) : Option Answer :=
  let cs := args.map Value.cell
  ((moment? name steadyPlace?.isSome cs).or (present? name cs)).map
    (orNull name (steadyPlace?.getD ""))

/-! ## Laws -/

theorem orNull_unreadable (function place : String) :
    orNull function place (.error .unreadable) = .ok .null := rfl

end SalesLedger.Sql.Builtin
