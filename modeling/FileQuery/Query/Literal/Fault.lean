import FileQuery.Calendar.Moment
import FileQuery.Number.Integer

/-!
Why a literal is refused.
-/

namespace FileQuery.Query

inductive LiteralFault where
  | notSize (text : String)
  | unknownUnit (unit : String)
  | sizeTooLarge
  | notCount (text : String)
  | integer (fault : Number.IntegerFault)
  | notTime (text : String)
  | range (fault : Calendar.RangeFault)
deriving DecidableEq, Repr

def timeForms : List String :=
  ["relative (-7d, -2.hours, -30minutes, 1w)", "YYYY-MM-DD", "YYYY-MM-DDTHH:MM:SS",
    "RFC 3339 (2024-01-15T10:30:00Z, 2024-01-15T10:30:00+02:00)", "now, today, yesterday"]

namespace LiteralFault

def message : LiteralFault → String
  | .notSize text => "'" ++ text ++ "' is not a size (e.g. 1024, 100kb, 1.5mb)"
  | .unknownUnit unit => "unknown size unit '" ++ unit ++ "' (use b, kb, mb, gb or tb)"
  | .sizeTooLarge => "size too large"
  | .notCount text => "'" ++ text ++ "' is not a non-negative integer"
  | .integer fault => fault.message
  | .notTime text =>
    "invalid time '" ++ text ++ "'. Supported formats: " ++ String.intercalate "; " timeForms
  | .range fault => fault.message

/-- Whether a fault is reported as an invalid value.  Moments and sizes out of all bounds are not
foreseen, and break the reading of a query off. -/
def isInvalidValue : LiteralFault → Bool
  | .sizeTooLarge => false
  | .range .moment => false
  | _ => true

end LiteralFault

end FileQuery.Query
