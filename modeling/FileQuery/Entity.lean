import FileQuery.Content.Scan
import FileQuery.Document.Fault
import FileQuery.Document.Store
import FileQuery.FileType

/-!
Entities: what a search looks at, behind a path that is known without looking.
-/

namespace FileQuery

/-- What an entity tells about itself; what is not known is missing. -/
structure Metadata where
  type : FileType
  size : Option Nat := none
  modified : Option Calendar.Moment := none
  created : Option Calendar.Moment := none
  accessed : Option Calendar.Moment := none
deriving DecidableEq, Repr

/-- What stands in the way of reading: there is no such thing, it is a directory, it lies below
something that is none, it may not be read, or anything else. -/
inductive Obstacle where
  | missing
  | isDirectory
  | notDirectory
  | forbidden
  | other
deriving DecidableEq, Repr

structure Unavailable where
  obstacle : Obstacle
  reason : String := ""
deriving DecidableEq, Repr

/-- Why an entity does not answer.  That it cannot be read or is no usable document is foreseen; a
value in a document that breaks reading off, a number of bytes that nothing can be read with, or a
timestamp out of the calendar is not. -/
inductive AccessFault where
  | unavailable (u : Unavailable)
  | unusable (u : Document.Unusable)
  | badValue (v : Document.BadValue)
  | badLength
  | hugeLength
  | range (fault : Calendar.RangeFault)
deriving DecidableEq, Repr

def AccessFault.ofLoad : Document.LoadFault → AccessFault
  | .unusable u => .unusable u
  | .badValue v => .badValue v

/-- An entity: its path, and what it answers when it is asked for its metadata, for its documents in
a format up to a size, and for its content in chunks of a size. -/
structure Entity where
  path : String
  metadata : Except AccessFault Metadata
  documents : Document.Format → Int → Except AccessFault (List Document.Root)
  content : Int → Content.Stream AccessFault

end FileQuery
