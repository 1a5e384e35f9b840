import FileQuery.Document.Load
import FileQuery.Evaluate.Frame
import FileQuery.Git.Command
import FileQuery.Git.Listing

/-!
The entities of a revision.  Blobs are files or links; trees and other repositories are directories
without a size.  Nothing is known of times.
-/

namespace FileQuery.Git

def linkMode : String := "120000"

namespace Entry

def metadata (e : Entry) : Metadata :=
  if e.isBlob then { type := if e.mode = linkMode then .symlink else .file, size := e.size }
  else { type := .dir }

def bytes (repository : Repository) (e : Entry) : Except Unavailable (List UInt8) :=
  if e.isBlob then repository.blob e.id
  else .error ⟨.isDirectory, e.shownPath ++ " is a git tree"⟩

def readPieces (length : Int) (content : List UInt8) : Content.Stream AccessFault :=
  if length = 0 then ⟨[], some .badLength⟩
  else if length < 0 then ⟨[], none⟩
  else ⟨Content.cut length.toNat content, none⟩

/-- Refuses a blob whose size is known and too large. -/
def checkKnownSize (e : Entry) (format : Document.Format) (limit : Int) :
    Except Document.Unusable Unit :=
  match e.size with
  | some size => Document.checkSize format size limit
  | none => .ok ()

def documents (repository : Repository) (readers : Document.Readers) (e : Entry)
    (format : Document.Format) (limit : Int) : Except AccessFault (List Document.Root) := do
  if e.isBlob then (e.checkKnownSize format limit).mapError .unusable
  let content ← (e.bytes repository).mapError .unavailable
  (Document.checkSize format content.length limit).mapError .unusable
  (Document.load readers format content).mapError .ofLoad

def entity (repository : Repository) (readers : Document.Readers) (e : Entry) : Entity where
  path := e.queriedPath
  metadata := .ok e.metadata
  documents := e.documents repository readers
  content := fun length =>
    match e.bytes repository with
    | .ok content => readPieces length content
    | .error u => ⟨[], some (.unavailable u)⟩

def commands (limit : Int) (e : Entry) : Query.Access → List Command
  | .metadata => []
  | .documents format =>
    if e.isBlob && (e.checkKnownSize format limit).isOk then [.readBlob e.id] else []
  | .content => if e.isBlob then [.readBlob e.id] else []

end Entry

end FileQuery.Git
