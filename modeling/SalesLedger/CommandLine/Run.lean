import SalesLedger.CommandLine.Arguments
import SalesLedger.Dashboard
import SalesLedger.Json.Parser
import SalesLedger.Parameters.Normalize

/-!
# Command lines

What a command line does: it reads the settings, carries out the command, and shows the answer as
JSON over several lines, or says on the other stream why there is none.

Main statements: `run_usage`, an unusable line changes nothing, and `run_version`, neither does one
that asks for the version.
-/

namespace SalesLedger.CommandLine

open Storage

/-- How a command line ends. -/
inductive Ending where
  | success (shown : String)
  | failure (told : String)
  /-- The arguments are not usable. -/
  | usage
  deriving Repr, DecidableEq

def Ending.status : Ending → Nat
  | .success _ => 0
  | .failure _ => 1
  | .usage => 2

/-- An error with its cause, as it is told. -/
def told (message : String) (cause? : Option String) : String :=
  "Error: " ++ message ++ "\n" ++
    match cause? with
    | some cause => "\nCaused by:\n    " ++ cause ++ "\n"
    | none => ""

def failed (f : Failure) : Ending :=
  .failure (told f.message f.cause?)

def shown (v : Json) : Ending :=
  .success (v.pretty ++ "\n")

/-- The parameter set in an argument. -/
def params (s : String) : Except Ending ParameterSet :=
  match Json.parse s with
  | .ok v => .ok (ParameterSet.ofJson v)
  | .error e => .error (.failure (told "--params must be a JSON object" (some e.message)))

/-- The ending of something that needs a parameter set. -/
def withParams (s : String) (go : ParameterSet → Ending) : Ending :=
  match params s with
  | .ok p => go p
  | .error ending => ending

def rowsJson (rows : List Json.Fields) : Json :=
  .array (rows.map .object)

def compiledJson (q : Query.Compiled) : Json :=
  Json.ofFields [("sql", .text q.sql), ("bound", .array (q.bound.map Sql.Cell.toJson)),
    ("x_axis", Json.ofText? q.xAxis), ("measure", Json.ofText? q.measure)]

/-- All views of a dashboard as JSON. -/
def dashboardJson (config : Config) (disk : Disk) (today : Calendar.Date) (t : Tenant) : Json :=
  Json.ofFields [("summary", (Dashboard.summary config disk t).toJson),
    ("salesTrend",
      .array ((Dashboard.trend config disk t today).map Dashboard.TrendPoint.toJson)),
    ("inventoryDistribution",
      .array ((Dashboard.inventory config disk t).map Dashboard.InventorySlice.toJson))]

/-- Carries out a command. -/
def execute (config : Config) (today : Calendar.Date) (disk : Disk) : Command → Ending × Disk
  | .prepare t =>
    match Store.ensureLedger config disk t with
    | (.ok (), disk) =>
      (shown (Json.ofFields
        [("tenant", .text t.id), ("ledger", .text (Store.ledgerPath config t))]), disk)
    | (.error f, disk) => (failed f, disk)
  | .addSale t item price inStock sold date =>
    match Store.append config disk t [Sale.ofCounts item price inStock sold (date.getD today)] with
    | (.ok n, disk) =>
      (shown (Json.ofFields [("tenant", .text t.id), ("rows_written", .integer n)]), disk)
    | (.error f, disk) => (failed f, disk)
  | .query t s =>
    (withParams s fun p => shown (rowsJson (Service.analysis config disk today t p)), disk)
  | .chart t s =>
    (withParams s fun p => shown (rowsJson (Service.chart config disk today t p)), disk)
  | .dashboard t => (shown (dashboardJson config disk today t), disk)
  | .recent t => (shown (rowsJson (Dashboard.recent config disk t)), disk)
  | .compile t s strict =>
    (withParams s fun p =>
      match Service.compile config disk today t p (if strict then .strict else .lenient) with
      | .ok q => shown (compiledJson q)
      | .error r => failed r.toFailure, disk)

/-- The settings of an environment, with what the line puts in their place. -/
def settings (setting? : String → Option String) (line : Line) : Except Failure Config := do
  let config ← Config.ofEnvironment setting?
  pure
    { config with
      dataDir := line.dataDir.getD config.dataDir
      masterPath := line.masterPath.getD config.masterPath }

/-- The name of the program and its version. -/
def version : String := "ledger 0.1.0"

/-- Runs a command line. `day` tells what day it is at an offset in seconds. -/
def run (setting? : String → Option String) (day : Int → Calendar.Date) (disk : Disk)
    (args : List String) : Ending × Disk :=
  match asksVersion [] args, Line.parse args with
  | true, _ => (.success (version ++ "\n"), disk)
  | false, none => (.usage, disk)
  | false, some line =>
    match settings setting? line with
    | .error f => (failed f, disk)
    | .ok config =>
      match Service.start config with
      | .error f => (failed f, disk)
      | .ok reference =>
        let reference := line.today.elim reference .pinned
        execute config (reference.today day) disk line.command

/-- A place with all places above it, from the top down. -/
def withAbove (p : Place) : List Place :=
  (List.range (p.length + 1)).map p.take

/-- The places that a path leads through from a working directory, with all above them. -/
def placesOfPath (working : Place) (path : String) : List Place :=
  (Path.visited (Path.start working path) (Path.names path)).flatMap withAbove

/-- The places that the address of a database leads through. -/
def placesOfAddress (working : Place) (text : String) : List Place :=
  match Address.ofText .create text with
  | .ok a => placesOfPath working a.path
  | .error _ => []

/-- The places that a command line may look at or change: those on the ways to the two ledgers. -/
def places (setting? : String → Option String) (working : Place) (args : List String) :
    List Place :=
  match Line.parse args with
  | none => []
  | some line =>
    match settings setting? line with
    | .error _ => []
    | .ok config =>
      [Store.ledgerPath config line.command.tenant, config.masterPath].flatMap fun path =>
        placesOfPath working path ++ placesOfAddress working path

/-! ## Laws -/

theorem run_usage {setting? : String → Option String} {day : Int → Calendar.Date} {disk : Disk}
    {args : List String} (hv : asksVersion [] args = false) (h : Line.parse args = none) :
    run setting? day disk args = (.usage, disk) := by
  simp [run, hv, h]

theorem run_version {setting? : String → Option String} {day : Int → Calendar.Date} {disk : Disk}
    {args : List String} (h : asksVersion [] args = true) :
    (run setting? day disk args).2 = disk := by
  simp [run, h]

end SalesLedger.CommandLine
