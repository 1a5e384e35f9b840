import FileQuery.Calendar.Moment
import FileQuery.FileType

/-!
Directory trees.  A tree lists everything below its top by the names on the way there; the top itself
is a directory.
-/

namespace FileQuery

inductive Node where
  | file (content : List UInt8)
  | directory
  | link (target : String)
  | pipe
deriving DecidableEq, Repr

def Node.type : Node → FileType
  | .file _ => .file
  | .directory => .dir
  | .link _ => .symlink
  | .pipe => .fifo

/-- A node with what is noted about it: whether it may be read, and when it was changed, made and
looked at, in microseconds of universal time. -/
structure Item where
  node : Node
  isReadable : Bool := true
  modified : Int := Calendar.epoch
  created : Int := Calendar.epoch
  accessed : Int := Calendar.epoch
deriving DecidableEq, Repr

/-- A directory tree; no place is listed twice. -/
structure Tree where
  items : List (List String × Item) := []
deriving Repr

namespace Tree

def get? (tree : Tree) (place : List String) : Option Item :=
  if place.isEmpty then some { node := .directory } else tree.items.lookup place

def names (tree : Tree) (place : List String) : List String :=
  tree.items.filterMap fun (other, _) =>
    match other.getLast? with
    | some name => if other.dropLast = place then some name else none
    | none => none

def remove (tree : Tree) (place : List String) : Tree :=
  ⟨tree.items.filter fun (other, _) => !place.isPrefixOf other⟩

/-- Puts an item at a place; what is there is replaced. -/
def put (tree : Tree) (place : List String) (item : Item) : Tree :=
  ⟨tree.items.filter (·.1 != place) ++ [(place, item)]⟩

def makeWay (tree : Tree) (item : Item) (done : List String) : List String → Tree
  | [] => tree
  | name :: rest =>
    let place := done ++ [name]
    let tree := if (tree.get? place).isSome then tree else tree.put place item
    makeWay tree item place rest

end Tree

end FileQuery
