import FileQuery.Document.Format

/-!
Faults of reading documents.
-/

namespace FileQuery.Document

/-- Values that are spelled or marked as one of a kind and are none, and whatever else a library does
not foresee.  Such things are not faults of the document but break the reading off. -/
inductive BadValue where
  | integer (fault : Number.IntegerFault)
  | float
  | emptyNumber
  | hugeNumber
  | truth
  | date
  | timestamp
  | timestampOfMap
  | character
  | hugeCharacter
  | other (name : String)
deriving DecidableEq, Repr

inductive ReadFault where
  | malformed
  | tooDeep
  | badValue (v : BadValue)
deriving DecidableEq, Repr

inductive LoadFault where
  | unusable (u : Unusable)
  | badValue (v : BadValue)
deriving DecidableEq, Repr

def ReadFault.inFormat (format : Format) : ReadFault → LoadFault
  | .malformed => .unusable ⟨format, .parseError⟩
  | .tooDeep => .unusable ⟨format, .tooDeep⟩
  | .badValue v => .badValue v

end FileQuery.Document
