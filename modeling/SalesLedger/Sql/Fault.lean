/-!
# Why a statement fails

The reasons for which a database refuses a statement or a file, with what it says about them.
-/

namespace SalesLedger.Sql

/-- Why an expression has no value. -/
inductive ValueFault where
  | integerOverflow
  | tooLong
  | patternTooLong
  | escapeNotSingle
  | badDocument
  | badPath (path : String)
  /-- A document cannot hold bytes. -/
  | bytesInDocument
  | labelNotText
  | labelWithoutValue
  | pathWithoutValue (function : String)
  | unknownStrictness
  /-- A function of the present moment, where nothing may depend on the clock. -/
  | unsteady (function place : String)
  | unknownFunction (function : String)
  | unusableFunction (function : String)
  deriving Repr, DecidableEq

/-- What is said of an expression without a value. -/
def ValueFault.message : ValueFault → String
  | .integerOverflow => "integer overflow"
  | .tooLong => "string or blob too big"
  | .patternTooLong => "LIKE or GLOB pattern too complex"
  | .escapeNotSingle => "ESCAPE expression must be a single character"
  | .badDocument => "malformed JSON"
  | .badPath path => "bad JSON path: " ++ path
  | .bytesInDocument => "JSON cannot hold BLOB values"
  | .labelNotText => "json_object() labels must be TEXT"
  | .labelWithoutValue => "json_object() requires an even number of arguments"
  | .pathWithoutValue function => "json_" ++ function ++ "() needs an odd number of arguments"
  | .unknownStrictness => "FLAGS parameter to json_valid() must be between 1 and 15"
  | .unsteady function place => "non-deterministic use of " ++ function ++ "() in " ++ place
  | .unknownFunction function => "unknown function: " ++ function ++ "()"
  | .unusableFunction function =>
    "unable to use function " ++ function ++ " in the requested context"

/-- Why a database refuses. -/
inductive Fault where
  | notADatabase
  | cannotOpen (path : String)
  | diskError
  | readOnly
  /-- The file beside the database that keeps what is overwritten. -/
  | cannotOpenJournal
  /-- Another connection writes. -/
  | locked
  | invalidAuthority (host : String)
  | noSuchMode (kind mode : String)
  | modeNotAllowed (mode : String)
  | noSuchFileSystem (name : String)
  | noSuchTable (table : String)
  | noSuchColumn (table column : String)
  | computedColumn (column : String)
  | noValue (f : ValueFault)
  | datatypeMismatch
  /-- A cell of another type than its column's. -/
  | wrongType (kind type table column : String)
  | missingValue (table column : String)
  | checkFailed (name : String)
  | notUnique (table : String) (columns : List String)
  | keyMismatch (child parent : String)
  | keyFailed
  | full
  deriving Repr, DecidableEq

/-- What a database says. -/
def Fault.message : Fault → String
  | .notADatabase => "file is not a database"
  | .cannotOpen path => "unable to open database file: " ++ path
  | .diskError => "disk I/O error"
  | .readOnly => "attempt to write a readonly database"
  | .cannotOpenJournal => "unable to open database file"
  | .locked => "database is locked"
  | .invalidAuthority host => "invalid uri authority: " ++ host
  | .noSuchMode kind mode => "no such " ++ kind ++ " mode: " ++ mode
  | .modeNotAllowed mode => "access mode not allowed: " ++ mode
  | .noSuchFileSystem name => "no such vfs: " ++ name
  | .noSuchTable table => "no such table: " ++ table
  | .noSuchColumn table column => "table " ++ table ++ " has no column named " ++ column
  | .computedColumn column => "cannot INSERT into generated column \"" ++ column ++ "\""
  | .noValue f => f.message
  | .datatypeMismatch => "datatype mismatch"
  | .wrongType kind type table column =>
    "cannot store " ++ kind ++ " value in " ++ type ++ " column " ++ table ++ "." ++ column
  | .missingValue table column => "NOT NULL constraint failed: " ++ table ++ "." ++ column
  | .checkFailed name => "CHECK constraint failed: " ++ name
  | .notUnique table columns =>
    "UNIQUE constraint failed: " ++ ", ".intercalate (columns.map fun c => table ++ "." ++ c)
  | .keyMismatch child parent =>
    "foreign key mismatch - \"" ++ child ++ "\" referencing \"" ++ parent ++ "\""
  | .keyFailed => "FOREIGN KEY constraint failed"
  | .full => "database or disk is full"

end SalesLedger.Sql
