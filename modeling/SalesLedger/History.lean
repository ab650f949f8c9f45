import SalesLedger.Dashboard
import SalesLedger.Insight.Pipeline

/-!
# Histories

Everything that callers do with the ledgers of a disk, one operation after the other. An operation
has an answer and leaves a disk behind; those that only read leave it as it was. While an operation
runs, the system may refuse any of its tries to open or to write a file.

Main statements: `history_append` and `after_append`, a run goes on from the disk that was left.
-/

namespace SalesLedger.History

open Storage

/-- What callers do. -/
inductive Operation where
  | ensureTenant (t : Tenant)
  | ensureMaster
  | record (t : Tenant) (sales : List Sale)
  | columns (t : Tenant)
  | compile (t : Tenant) (today : Calendar.Date) (p : ParameterSet) (shape : Query.Shape)
  | query (t : Tenant) (s : Sql.Select)
  | analysis (t : Tenant) (today : Calendar.Date) (p : ParameterSet)
  | chart (t : Tenant) (today : Calendar.Date) (p : ParameterSet)
  | summary (t : Tenant)
  | trend (t : Tenant) (today : Calendar.Date)
  | inventory (t : Tenant)
  | recent (t : Tenant)
  | ask (t : Tenant) (today : Calendar.Date) (planner generator : Insight.Model) (question : String)

/-- What they are answered. -/
inductive Answer where
  | done
  | recorded (count : Nat)
  | columns (names : List String)
  | compiled (q : Query.Compiled)
  | rows (rows : List Json.Fields)
  | summary (s : Dashboard.Summary)
  | trend (points : List Dashboard.TrendPoint)
  | inventory (slices : List Dashboard.InventorySlice)
  | conversation (c : Insight.Conversation)

/-- An operation, and which of its tries to open or to write a file are refused. -/
structure Step where
  operation : Operation
  outages : List Bool

abbrev Event := Operation × Except Failure Answer

variable (config : Config)

/-- The answer of an operation and the disk that it leaves. -/
def Operation.perform (d : Disk) : Operation → Except Failure Answer × Disk
  | ensureTenant t => (Store.ensureLedger config d t).map (Except.map fun _ => .done) id
  | ensureMaster => (Store.ensureMaster config d).map (Except.map fun _ => .done) id
  | record t sales => (Store.append config d t sales).map (Except.map .recorded) id
  | columns t => ((Store.columns config d t).map .columns, d)
  | compile t today p shape =>
    (((Service.compile config d today t p shape).mapError Query.Rejection.toFailure).map .compiled,
      d)
  | query t s => ((Store.query config d t s).map .rows, d)
  | analysis t today p => (.ok (.rows (Service.analysis config d today t p)), d)
  | chart t today p => (.ok (.rows (Service.chart config d today t p)), d)
  | summary t => (.ok (.summary (Dashboard.summary config d t)), d)
  | trend t today => (.ok (.trend (Dashboard.trend config d t today)), d)
  | inventory t => (.ok (.inventory (Dashboard.inventory config d t)), d)
  | recent t => (.ok (.rows (Dashboard.recent config d t)), d)
  | ask t today planner generator question =>
    (.ok (.conversation (Insight.ask config d today t planner generator question)), d)

/-- The answer of a step and the disk that it leaves: what is refused lasts no longer. -/
def Step.perform (d : Disk) (s : Step) : Except Failure Answer × Disk :=
  (s.operation.perform config (d.facing s.outages)).map id fun d => d.facing []

/-- The disk after some steps. -/
def after (d : Disk) (steps : List Step) : Disk :=
  steps.foldl (fun d s => (s.perform config d).2) d

/-- The operations of some steps with their answers. -/
def history (d : Disk) : List Step → List Event
  | [] => []
  | s :: steps =>
    (s.operation, (s.perform config d).1) :: history (s.perform config d).2 steps

/-! ## Laws -/

theorem after_append (d : Disk) (steps more : List Step) :
    after config d (steps ++ more) = after config (after config d steps) more :=
  List.foldl_append

theorem history_append (d : Disk) (steps more : List Step) :
    history config d (steps ++ more) =
      history config d steps ++ history config (after config d steps) more := by
  induction steps generalizing d with
  | nil => rfl
  | cons s steps ih =>
    rw [List.cons_append, history, history, ih]
    rfl

end SalesLedger.History
