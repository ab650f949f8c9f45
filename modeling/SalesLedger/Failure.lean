/-!
# Failures

What a caller is told when the ledger cannot do what it was asked to. A failure has a kind and a
text; its message is the two together.
-/

namespace SalesLedger

/-- Which part of the ledger a failure comes from. -/
inductive FailureKind where
  | storage
  | tableCreation
  | invalidTenant
  | rejected
  | planner
  | config
  | io
  | json
  deriving Repr, DecidableEq

/-- A failure with its own text. -/
structure Failure where
  kind : FailureKind
  text : String
  deriving Repr, DecidableEq

/-- What a message begins with. -/
def FailureKind.label : FailureKind → String
  | .storage => "Storage error: "
  | .tableCreation => "Table creation error: "
  | .invalidTenant => "Invalid tenant: "
  | .rejected => "Query rejected: "
  | .planner => "Planner error: "
  | .config => "Config error: "
  | .io => "IO error: "
  | .json => "JSON error: "

def Failure.message (f : Failure) : String :=
  f.kind.label ++ f.text

/-- The text of the cause beneath a failure, for the kinds that only pass another's on. -/
def Failure.cause? (f : Failure) : Option String :=
  match f.kind with
  | .io | .json => some f.text
  | _ => none

end SalesLedger
