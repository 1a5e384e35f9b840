import FileQuery.Entity
import FileQuery.Text.Blank
import FileQuery.Text.Utf8.Lossy

/-!
The two commands of git that a search runs, and what comes of them.
-/

namespace FileQuery.Git

inductive Command where
  | listTree (revision : String)
  | readBlob (id : String)
deriving DecidableEq, Repr

def Command.arguments : Command → List String
  | .listTree revision => ["git", "ls-tree", "-r", "-t", "-l", "-z", revision]
  | .readBlob id => ["git", "cat-file", "blob", id]

/-- What comes of a command: it ends with a code and has written bytes, of which some are meant as
messages; or it takes too long; or git is not there. -/
inductive Outcome where
  | finished (code : Int) (output messages : List UInt8)
  | timedOut
  | notInstalled
deriving DecidableEq, Repr

/-- A repository: the directory it is in, and what comes of a command there. -/
structure Repository where
  directory : String
  run : Command → Outcome

def stripped (s : String) : String := String.ofList (Text.trim s.toList)

/-- Why a revision cannot be listed, from the first of the given texts that is not empty. -/
def listRefusal (reasons : List String) : String :=
  "git ls-tree: " ++ (reasons.find? (!·.isEmpty)).getD ""

def Repository.listing (repository : Repository) (revision : String) :
    Except String (List UInt8) :=
  match repository.run (.listTree revision) with
  | .finished code output messages =>
    if code = 0 then .ok output
    else
      .error (listRefusal
        [stripped (Text.readLossy messages), stripped (Text.readLossy output),
          "cannot list " ++ revision])
  | .timedOut => .error (listRefusal ["git timed out"])
  | .notInstalled => .error (listRefusal ["git command not found"])

def Repository.blob (repository : Repository) (id : String) : Except Unavailable (List UInt8) :=
  match repository.run (.readBlob id) with
  | .finished code output messages =>
    if code = 0 then .ok output
    else
      .error ⟨.other, "git cat-file failed for " ++ id ++ ": " ++
        stripped (Text.readLossy messages)⟩
  | .timedOut => .error ⟨.other, "git cat-file timed out for " ++ id⟩
  | .notInstalled => .error ⟨.missing, "[Errno 2] No such file or directory: 'git'"⟩

end FileQuery.Git
