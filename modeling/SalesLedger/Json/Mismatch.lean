import SalesLedger.Json.Printer
import SalesLedger.Text.Escaped

/-!
# A value of the wrong kind

What a reader of a typed value says when it meets another: what it found and what it expected, a
field that is missing, or a list of the wrong length.
-/

namespace SalesLedger.Json

/-- What a message calls a value. -/
def describe : Json → String
  | .null => "null"
  | .bool b => "boolean `" ++ toString b ++ "`"
  | .integer n => "integer `" ++ toString n ++ "`"
  | .real x => "floating point `" ++ floatText x ++ "`"
  | .text s => "string " ++ Text.Escaped.text s
  | .array _ => "sequence"
  | .object _ => "map"

/-- Why a value is not of the kind that was asked for. -/
inductive Mismatch where
  | wrongType (found : Json) (expected : String)
  | wrongValue (found expected : String)
  | wrongLength (length : Nat) (expected : String)
  | missingField (name : String)
  | custom (message : String)

def Mismatch.message : Mismatch → String
  | .wrongType found expected => "invalid type: " ++ describe found ++ ", expected " ++ expected
  | .wrongValue found expected => "invalid value: " ++ found ++ ", expected " ++ expected
  | .wrongLength length expected =>
    "invalid length " ++ toString length ++ ", expected " ++ expected
  | .missingField name => "missing field `" ++ name ++ "`"
  | .custom message => message

end SalesLedger.Json
