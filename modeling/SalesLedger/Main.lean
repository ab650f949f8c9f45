import SalesLedger.Calendar.DayCount
import SalesLedger.CommandLine.Run
import SalesLedger.Storage.Image
import Std.Time.DateTime.Timestamp

/-!
# The program

Carries out one command line: it reads what stands at the places that the line is about, runs the
line, and writes what has changed.
-/

namespace SalesLedger.Main

open Storage

/-- The path of a place from the top. -/
def path (p : Place) : String :=
  "/" ++ "/".intercalate p

/-- What stands at a place whose place above is a directory. -/
def nodeAt (p : Place) : IO (Option Node) := do
  try
    pure (some (Image.node (← IO.FS.readBinFile (path p))))
  catch
    | .noFileOrDirectory .. => pure none
    | .permissionDenied .. => pure (some .foreign)
    | .invalidArgument .. => pure none
    | _ => pure (some .directory)

/-- The disk as far as some places go, each listed after those above it. -/
def load (working : Place) (places : List Place) : IO Disk := do
  let mut disk : Disk := { working, nodes := [] }
  for p in places do
    if p ≠ [] ∧ disk.node? p.dropLast = some .directory then
      if let some node ← nodeAt p then
        disk := disk.put p node
  return disk

/-- Writes what stands at a place. -/
def store (p : Place) : Node → IO Unit
  | .directory => IO.FS.createDirAll (path p)
  | .database db => IO.FS.writeFile (path p) (Image.text db)
  | .foreign => pure ()

/-- Writes what has changed. -/
def save (before after : Disk) (places : List Place) : IO Unit := do
  for p in places do
    if let some node := after.node? p then
      if before.node? p ≠ some node then
        store p node

/-- The settings of the environment that count. -/
def environment : IO (String → Option String) := do
  let names := [Config.dataDirVariable, Config.masterVariable, Config.offsetVariable]
  let found ← names.filterMapM fun name => do
    pure ((← IO.getEnv name).map fun value => (name, value))
  return fun name => found.lookup name

/-- The day at an offset from universal time. -/
def dayAt (seconds offset : Int) : Calendar.Date :=
  (Calendar.Date.ofDayCount? ((seconds + offset) / 86400)).getD ⟨1970, 1, 1, by decide⟩

/-- How the program is used. -/
def usage : String :=
  "Usage: ledger [--data-dir DIR] [--master-db FILE] [--today DATE] COMMAND PHONE ...\n" ++
  "Commands: init, add-sale, query, chart, dashboard, recent, compile\n"

/-- Carries out a command line. -/
def run (args : List String) : IO UInt32 := do
  let setting? ← environment
  let working := Path.names ((← IO.getEnv "PWD").getD "/")
  let places := (CommandLine.places setting? working args).eraseDups
  let disk ← load working places
  let seconds := (← Std.Time.Timestamp.now).toSecondsSinceUnixEpoch.val
  let (ending, after) := CommandLine.run setting? (dayAt seconds) disk args
  save disk after places
  match ending with
  | .success shown => IO.print shown
  | .failure told => IO.eprint told
  | .usage => IO.eprint usage
  return UInt32.ofNat ending.status

end SalesLedger.Main

def main (args : List String) : IO UInt32 :=
  SalesLedger.Main.run args
