import SalesLedger.Failure
import SalesLedger.Storage.Path
import SalesLedger.Text.Ascii
import SalesLedger.Text.Blank

/-!
# Settings

Where ledgers are kept and which offset from universal time decides what day it is. The settings
come from three variables of the environment; a variable that is not set leaves the usual value.

Main statements: `offsetSeconds_eq`, an offset in range is its minutes in seconds.
-/

namespace SalesLedger

/-- The settings of a ledger. -/
structure Config where
  /-- The directory of the tenants' ledgers. -/
  dataDir : String
  /-- The file of the master ledger. -/
  masterPath : String
  /-- Minutes east of universal time. -/
  offsetMinutes : Int
  deriving Repr, DecidableEq

namespace Config

/-- The usual places and the offset of Nepal. -/
def usualDataDir : String := "user_data"
def usualMasterPath : String := "master_sales.db"
def usualOffset : Int := 5 * 60 + 45

def usual : Config := ⟨usualDataDir, usualMasterPath, usualOffset⟩

/-- The usual settings beneath a directory. -/
def rootedAt (root : String) : Config :=
  ⟨Storage.Path.join root usualDataDir, Storage.Path.join root usualMasterPath, usualOffset⟩

/-- The failure of an offset of a day or more. -/
def outOfRange (minutes : Int) : Failure :=
  ⟨.config, "UTC offset of " ++ toString minutes ++ " minutes is out of range"⟩

/-- The offset in seconds, worked out in 32 bits. It has to be less than a day. -/
def offsetSeconds (c : Config) : Except Failure Int :=
  let seconds := (c.offsetMinutes * 60).bmod 0x100000000
  if -86400 < seconds ∧ seconds < 86400 then .ok seconds else .error (outOfRange c.offsetMinutes)

/-- The whole number of 32 bits that a text spells, with a sign or without. -/
def int32? (s : String) : Option Int :=
  (Text.signed? s.toList).filter fun n => -0x80000000 ≤ n ∧ n < 0x80000000

/-- The names of the variables. -/
def dataDirVariable : String := "LEDGER_DATA_DIR"
def masterVariable : String := "LEDGER_MASTER_DB"
def offsetVariable : String := "LEDGER_UTC_OFFSET_MINUTES"

def ofEnvironment (setting? : String → Option String) : Except Failure Config := do
  let offset ←
    match setting? offsetVariable with
    | none => pure usualOffset
    | some raw =>
      match int32? (Text.trim raw) with
      | some n => pure n
      | none => throw ⟨.config, offsetVariable ++ " is not an integer: '" ++ raw ++ "'"⟩
  let config : Config :=
    ⟨(setting? dataDirVariable).getD usualDataDir, (setting? masterVariable).getD usualMasterPath,
      offset⟩
  let _ ← config.offsetSeconds
  pure config

/-! ## Laws -/

theorem offsetSeconds_eq {c : Config} (h : -1440 < c.offsetMinutes) (h' : c.offsetMinutes < 1440) :
    c.offsetSeconds = .ok (c.offsetMinutes * 60) := by
  have hmod : (c.offsetMinutes * 60).bmod 0x100000000 = c.offsetMinutes * 60 := by
    rw [Int.bmod_def]
    split <;> omega
  unfold offsetSeconds
  simp only [hmod]
  rw [if_pos (by omega)]

end Config

end SalesLedger
