import FileQuery.Config
import FileQuery.Document.Matcher
import FileQuery.Entity
import FileQuery.Evaluate.Compare
import FileQuery.Message
import FileQuery.Query.Selector

/-!
The state of one evaluation: how far it has come, what the entity has answered so far, and what is worth
telling of it.  An entity is asked for everything at most once, also if it does not answer.
-/

namespace FileQuery.Query

/-- What happened in an evaluation: metadata, a document or the content could not be read, a document
could not be used or holds a value that cannot be compared, the content is no text, or the query was
decided. -/
inductive Remark where
  | noMetadata (u : Unavailable)
  | noDocument (format : Document.Format) (u : Unavailable)
  | unusable (u : Document.Unusable)
  | incomparable (m : Document.Matcher) (u : Document.Unusable)
  | noContent (u : Unavailable)
  | undecodable (fault : Text.Utf8Fault)
  | decided (c : Category)

def Remark.message (path : String) : Remark → Message
  | .noMetadata u => .debug "detect.engine.frame" (path ++ ": metadata unavailable: " ++ u.reason)
  | .noDocument format u =>
    .debug "detect.engine.frame" (path ++ ": no " ++ format.name ++ " document: " ++ u.reason)
  | .unusable u =>
    .debug "detect.engine.frame" (path ++ ": no " ++ u.format.name ++ " document: " ++ u.message)
  | .incomparable m u =>
    .debug "detect.engine.evaluator" (path ++ ": " ++ m.selectorText ++ ": " ++ u.message)
  | .noContent u =>
    .debug "detect.engine.evaluator" (path ++ ": content unavailable: " ++ u.reason)
  | .undecodable fault => .debug "detect.content" ("Undecodable content: " ++ fault.message)
  | .decided c =>
    .debug "detect.engine.evaluator" (path ++ ": resolved after " ++ c.text ++ " phase")

/-- How far an evaluation has come: which category is to be decided next, or that all is decided. -/
inductive Phase where
  | pending (c : Category)
  | resolved
deriving DecidableEq, Repr

namespace Phase

def rank : Phase → Nat
  | .pending .name => 1
  | .pending .metadata => 2
  | .pending .structured => 3
  | .pending .content => 4
  | .resolved => 5

def text : Phase → String
  | .pending .name => "NAME_PENDING"
  | .pending .metadata => "METADATA_PENDING"
  | .pending .structured => "STRUCTURED_PENDING"
  | .pending .content => "CONTENT_PENDING"
  | .resolved => "RESOLVED"

end Phase

inductive Verdict where
  | accepted
  | rejected
deriving DecidableEq, Repr

def Verdict.text : Verdict → String
  | .accepted => "match"
  | .rejected => "no match"

def Verdict.ofBool (b : Bool) : Verdict := if b then .accepted else .rejected

inductive Access where
  | metadata
  | documents (format : Document.Format)
  | content
deriving DecidableEq, Repr

/-- Why an evaluation has no verdict: a phase may not follow another, a comparison has no answer, the
entity breaks off, a value has no text, a condition on content is not being looked for, or something
is left undecided. -/
inductive EvaluationFault where
  | phase (current next : Phase)
  | compare (fault : CompareFault)
  | access (fault : AccessFault)
  | text (fault : Document.TextFault)
  | noScanner
  | unresolved
deriving DecidableEq, Repr

def phaseRefusal (current next : Phase) : String :=
  "Cannot move from " ++ current.text ++ " to " ++ next.text

/-- What stays the same in an evaluation: the settings, the limits for texts of values and for lines,
and the local zone. -/
structure Setting where
  config : Config := {}
  textLimit : Document.TextLimit := {}
  lines : Content.LineLimits := {}
  zone : Calendar.Zone := .fixed 0

/-- The state of an evaluation: what is left of the query, the phase, the verdict, the answers so far
everything that the entity was asked for and what is worth telling, both with the last first, and the
number of chunks read. -/
structure Frame where
  expr : Expr
  phase : Phase := .pending .name
  verdict : Option Verdict := none
  metadata : Option (Option Metadata) := none
  documents : List (Document.Format × Option (List Document.Root)) := []
  accesses : List Access := []
  remarks : List Remark := []
  chunksRead : Nat := 0

/-- Steps of an evaluation; the state is kept when one fails. -/
abbrev Evaluation (α : Type) := ExceptT EvaluationFault (StateM Frame) α

namespace Frame

def advance (next : Phase) : Evaluation Unit := do
  let current := (← get).phase
  if next.rank ≤ current.rank then throw (.phase current next)
  modify ({ · with phase := next })

def enter (c : Category) : Evaluation Unit := do
  if (← get).phase != .pending c then advance (.pending c)

def resolve (v : Verdict) : Evaluation Verdict := do
  advance .resolved
  modify ({ · with verdict := some v })
  return v

def note (a : Access) : Evaluation Unit :=
  modify fun frame => { frame with accesses := a :: frame.accesses }

def remark (r : Remark) : Evaluation Unit :=
  modify fun frame => { frame with remarks := r :: frame.remarks }

def askMetadata (entity : Entity) : Evaluation (Option Metadata) := do
  match (← get).metadata with
  | some answer => return answer
  | none =>
    note .metadata
    modify ({ · with metadata := some none })
    match entity.metadata with
    | .ok m =>
      modify ({ · with metadata := some (some m) })
      return some m
    | .error (.unavailable u) =>
      remark (.noMetadata u)
      return none
    | .error fault => throw (.access fault)

def readDocuments (setting : Setting) (entity : Entity) (format : Document.Format) :
    Evaluation (Option (List Document.Root)) := do
  if !format.admits entity.path then return none
  note (.documents format)
  match entity.documents format setting.config.maxDocumentSize with
  | .ok roots => return some roots
  | .error (.unavailable u) =>
    remark (.noDocument format u)
    return none
  | .error (.unusable u) =>
    remark (.unusable u)
    return none
  | .error fault => throw (.access fault)

def askDocuments (setting : Setting) (entity : Entity) (format : Document.Format) :
    Evaluation (Option (List Document.Root)) := do
  match (← get).documents.lookup format with
  | some answer => return answer
  | none =>
    let answer ← readDocuments setting entity format
    modify fun frame => { frame with documents := (format, answer) :: frame.documents }
    return answer

end Frame

end FileQuery.Query
