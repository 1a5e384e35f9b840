/-!
Sets of characters given by the code points where membership changes.
-/

namespace FileQuery.Text

/-- Number of entries of the sorted table that are at most `x`, looked for between `lo` and `hi`. -/
def countUpTo (table : Array Nat) (x lo hi : Nat) : Nat :=
  if _h : lo < hi then
    let mid := (lo + hi) / 2
    if table.getD mid 0 ≤ x then countUpTo table x (mid + 1) hi else countUpTo table x lo mid
  else lo
termination_by hi - lo

/-- Whether a code point lies in the set whose members start at the even entries of the sorted
table and end before the odd ones. -/
def inTable (table : Array Nat) (x : Nat) : Bool :=
  countUpTo table x 0 table.size % 2 == 1

end FileQuery.Text
