import FileQuery.Query.Expr
import FileQuery.Text.Search

/-!
Comparing attributes with values.
-/

namespace FileQuery.Query

/-- Why a comparison has no answer: the operator is none for texts, or none for what has an order, or
a moment lies out of range. -/
inductive CompareFault where
  | notForTexts (op : Operator)
  | notForOrder (op : Operator)
  | range (fault : Calendar.RangeFault)
deriving DecidableEq, Repr

def CompareFault.message : CompareFault → String
  | .notForTexts op | .notForOrder op => "Operator " ++ op.spelling ++ " does not apply here"
  | .range fault => fault.message

def compareText (op : Operator) (value : Operand) (actual : String) : Except CompareFault Bool :=
  match op, value with
  | .eq, .text s => .ok (actual == s)
  | .ne, .text s => .ok (actual != s)
  | .contains, .text s => .ok (Text.occursIn s.toList actual.toList)
  | .member, .texts items => .ok (items.contains actual)
  | .matching, .pattern p | .glob, .pattern p => .ok (p.holds actual)
  | op, _ => .error (.notForTexts op)

def compareBy (op : Operator) (order : Ordering) : Except CompareFault Bool :=
  match op.decide? order with
  | some b => .ok b
  | none => .error (.notForOrder op)

def compareNumber (op : Operator) (value : Operand) (actual : Nat) : Except CompareFault Bool :=
  match op, value with
  | .member, .numbers items => .ok (items.contains actual)
  | op, .number n => compareBy op (compare actual n)
  | op, _ => .error (.notForOrder op)

def compareType (op : Operator) (value : Operand) (actual : FileType) :
    Except CompareFault Bool :=
  match op, value with
  | .eq, .fileType t => .ok (actual == t)
  | .ne, .fileType t => .ok (actual != t)
  | .member, .fileTypes items => .ok (items.contains actual)
  | op, _ => .error (.notForOrder op)

/-- Compares two moments.  They are equal if they have the same date in the local zone. -/
def compareMoments (zone : Calendar.Zone) (op : Operator) (value actual : Calendar.Moment) :
    Except CompareFault Bool :=
  if op = .eq || op = .ne then do
    let date ← (actual.dateAt zone).mapError .range
    let wanted ← (value.dateAt zone).mapError .range
    return (date == wanted) == (op = .eq)
  else compareBy op (compare actual.instant value.instant)

def compareMoment (zone : Calendar.Zone) (op : Operator) (value : Operand)
    (actual : Calendar.Moment) : Except CompareFault Bool :=
  match value with
  | .moment m => compareMoments zone op m.toMoment actual
  | _ => .error (.notForOrder op)

end FileQuery.Query
