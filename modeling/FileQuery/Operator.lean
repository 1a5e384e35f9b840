/-!
The operators of comparisons.
-/

namespace FileQuery

inductive Operator where
  | eq
  | ne
  | matching
  | contains
  | member
  | glob
  | gt
  | ge
  | lt
  | le
deriving DecidableEq, Repr

namespace Operator

def spelling : Operator → String
  | .eq => "=="
  | .ne => "!="
  | .matching => "~="
  | .contains => "contains"
  | .member => "in"
  | .glob => "glob"
  | .gt => ">"
  | .ge => ">="
  | .lt => "<"
  | .le => "<="

def isOrdering : Operator → Bool
  | .gt | .ge | .lt | .le => true
  | _ => false

def decide? (op : Operator) (o : Ordering) : Option Bool :=
  match op with
  | .eq => some (o == .eq)
  | .ne => some (o != .eq)
  | .gt => some (o == .gt)
  | .ge => some (o != .lt)
  | .lt => some (o == .lt)
  | .le => some (o != .gt)
  | _ => none

end Operator

end FileQuery
