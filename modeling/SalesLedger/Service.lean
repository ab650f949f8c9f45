import SalesLedger.Presentation
import SalesLedger.Storage.Store

/-!
# Answering callers

A service is started with settings, whose offset decides what day it is, unless a day is set. The
two ways in which a caller gets rows: for analysis, where whatever cannot be found is left out,
and for a chart, where both axes have to be found and the rows are ordered and capped once more.
Whatever goes wrong, the caller gets no rows.

Main statements: `analysis_of_missing`, a tenant without a ledger has no rows.
-/

namespace SalesLedger.Service

open Storage Query

/-! ## Today -/

/-- What decides what day it is: the clock at an offset in seconds, or a day that was set. -/
inductive Reference where
  | clock (offset : Int)
  | pinned (day : Calendar.Date)
  deriving DecidableEq

/-- What day it is, where `day` tells it for the clock at an offset. -/
def Reference.today (day : Int → Calendar.Date) : Reference → Calendar.Date
  | .clock offset => day offset
  | .pinned date => date

/-- Starts a service, which goes by the clock at the offset of its settings. -/
def start (config : Config) : Except Failure Reference := do
  pure (.clock (← config.offsetSeconds))

/-! ## Rows -/

variable (config : Config) (disk : Disk) (today : Calendar.Date) (tenant : Tenant)
  (p : ParameterSet)

/-- The query that a parameter set asks for of a tenant's ledger as it is. -/
def compile (shape : Shape) : Except Rejection Compiled :=
  Query.compile p (Store.schema config disk tenant) today shape

/-- The rows that a parameter set asks for, with their dates in the usual form. -/
def fetch (shape : Shape) : List Json.Fields :=
  if Store.ledgerExists config disk tenant then
    match compile config disk today tenant p shape with
    | .ok q => Presentation.normalizeDates (Store.rows config disk tenant q.select)
    | .error _ => []
  else []

def analysis : List Json.Fields :=
  fetch config disk today tenant p .lenient

def chart : List Json.Fields :=
  match fetch config disk today tenant p .strict with
  | [] => []
  | rows => (Presentation.forChart p).shape rows

/-! ## Laws -/

theorem analysis_of_missing (h : Store.ledgerExists config disk tenant = false) :
    analysis config disk today tenant p = [] := by
  simp [analysis, fetch, h]

end SalesLedger.Service
