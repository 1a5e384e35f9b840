import FileQuery.Calendar.Zone
import FileQuery.Document.Load
import FileQuery.Tree.Locate

/-!
The entities of a directory tree.  Metadata are those of the node itself, also of a link; reading
follows links.
-/

namespace FileQuery.Tree

def directorySize : Nat := 4096

def sizeOf : Node → Nat
  | .file content => content.length
  | .directory => directorySize
  | .link target => target.utf8ByteSize
  | .pipe => 0

/-- The years from 1900 that the system can count, both ways. -/
def yearLimit : Int := Nat.pow 2 31

def stampRefusal : Unavailable := ⟨.other, "[Errno 75] Value too large for defined data type"⟩

def momentIn (zone : Calendar.Zone) (stamp : Int) : Except AccessFault Calendar.Moment :=
  let t := stamp / Calendar.second
  let year := Calendar.yearOf (t + zone.aheadAt t) - 1900
  if -yearLimit ≤ year && year < yearLimit then (zone.momentOfStamp stamp).mapError .range
  else .error (.unavailable stampRefusal)

def metadataOf (zone : Calendar.Zone) (item : Item) : Except AccessFault Metadata := do
  let modified ← momentIn zone item.modified
  let created ← momentIn zone item.created
  let accessed ← momentIn zone item.accessed
  return ⟨item.node.type, some (sizeOf item.node), some modified, some created, some accessed⟩

def contentAt (tree : Tree) (path : String) : Except PathFault (List UInt8) := do
  let found ← tree.locate true path
  if !found.item.isReadable then throw .forbidden
  match found.item.node with
  | .file content => return content
  | .pipe => return []
  | _ => throw .isDirectory

/-- Numbers that are too large to count bytes with. -/
def lengthLimit : Nat := Nat.pow 2 63

/-- The first bytes of a content, at most `length`; the number before zero stands for all of them. -/
def readFirst (length : Int) (content : List UInt8) : Except AccessFault (List UInt8) :=
  if lengthLimit ≤ length.natAbs then .error .hugeLength
  else if length = -1 then .ok content
  else if length < 0 then .error .badLength
  else .ok (content.take length.toNat)

/-- Reads a content in pieces, until a piece is empty. -/
def readPieces (length : Int) (content : List UInt8) : Content.Stream AccessFault :=
  match readFirst length content with
  | .error fault => ⟨[], some fault⟩
  | .ok first =>
    if first.isEmpty then ⟨[], none⟩
    else if length = -1 then ⟨[first], none⟩
    else ⟨Content.cut length.toNat content, none⟩

/-- The documents behind a path.  One byte more than allowed is read, which is enough to tell that a
document is too large. -/
def documentsAt (tree : Tree) (readers : Document.Readers) (path : String)
    (format : Document.Format) (limit : Int) : Except AccessFault (List Document.Root) := do
  let content ← (tree.contentAt path).mapError fun e => .unavailable (e.unavailable path)
  let bytes ← readFirst (limit + 1) content
  (Document.checkSize format bytes.length limit).mapError .unusable
  (Document.load readers format bytes).mapError .ofLoad

def entity (tree : Tree) (readers : Document.Readers) (zone : Calendar.Zone) (root path : String) :
    Entity where
  path := path
  metadata :=
    match tree.locate false (joinPaths root path) with
    | .ok found => metadataOf zone found.item
    | .error e => .error (.unavailable (e.unavailable (joinPaths root path)))
  documents := tree.documentsAt readers (joinPaths root path)
  content := fun length =>
    match tree.contentAt (joinPaths root path) with
    | .ok content => readPieces length content
    | .error e => ⟨[], some (.unavailable (e.unavailable (joinPaths root path)))⟩

end FileQuery.Tree
