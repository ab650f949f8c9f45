import SalesLedger.Json.Mismatch
import SalesLedger.Parameters.Normalize

/-!
# Charts

A chart as a language model describes it: its kind, and the parameters of the rows that it shows.
A kind that is not known is no chart.

Main statements: `parameters?_none`, no chart has no parameters.
-/

namespace SalesLedger.Insight

open Json

/-- The kind of a chart. -/
inductive ChartKind where
  | bar
  | line
  | pie
  | none
  deriving Repr, DecidableEq

namespace ChartKind

def word : ChartKind → String
  | bar => "bar_chart"
  | line => "line_chart"
  | pie => "pie_chart"
  | none => "none"

/-- The kind that a word names. -/
def ofWord (s : String) : ChartKind :=
  if s = bar.word then bar
  else if s = line.word then line
  else if s = pie.word then pie
  else none

/-- A kind from JSON: a word, or an object whose only key is the word and whose value is null. -/
def ofJson : Json → Except Mismatch ChartKind
  | .text s => .ok (ofWord s)
  | .object [(key, .null)] => .ok (ofWord key)
  | .object [(_, v)] => .error (.wrongType v "unit")
  | .object _ => .error (.wrongValue "map" "map with a single key")
  | v => .error (.wrongType v "string or map")

end ChartKind

/-- A chart. -/
structure Chart where
  kind : ChartKind
  parameters : Option Json

namespace Chart

def none : Chart := ⟨.none, Option.none⟩

/-- The value of a field that may be left out or be null. -/
def optional : Option Json → Option Json
  | some .null => Option.none
  | v => v

/-- The kind in a field that may be left out. -/
def kindOf : Option Json → Except Mismatch ChartKind
  | some v => ChartKind.ofJson v
  | Option.none => .ok .none

/-- A chart from JSON: an object, or a list of kind and parameters. -/
def ofJson : Json → Except Mismatch Chart
  | .object fields => do
    pure ⟨← kindOf (Fields.get? "type" fields), optional (Fields.get? "data_parameters" fields)⟩
  | .array items => do
    let kind ← kindOf items[0]?
    if 2 < items.length then throw (.wrongLength items.length "fewer elements in array")
    pure ⟨kind, optional items[1]?⟩
  | v => .error (.wrongType v "struct ChartSpec")

def toJson (c : Chart) : Json :=
  Json.ofFields <|
    ("type", .text c.kind.word) :: (c.parameters.map fun v => ("data_parameters", v)).toList

/-- The parameters of the rows that the chart shows. -/
def parameters? (c : Chart) : Option ParameterSet :=
  if c.kind = .none then Option.none else c.parameters.map ParameterSet.ofJson

/-! ## Laws -/

theorem parameters?_none : none.parameters? = Option.none := rfl

theorem ofWord_word (k : ChartKind) : ChartKind.ofWord k.word = k := by
  cases k <;> decide

end Chart

end SalesLedger.Insight
