import FileQuery.Document.Scalar
import FileQuery.PathName
import FileQuery.Text.Utf8

/-!
The formats of documents, and the faults of reading a document.
-/

namespace FileQuery.Document

inductive Format where
  | yaml
  | json
  | toml
deriving DecidableEq, Repr

namespace Format

def name : Format → String
  | .yaml => "yaml"
  | .json => "json"
  | .toml => "toml"

def extensions : Format → List String
  | .yaml => ["yaml", "yml"]
  | .json => ["json"]
  | .toml => ["toml"]

/-- Whether the file at a path is taken to be in a format. -/
def admits (format : Format) (path : String) : Bool :=
  format.extensions.contains (PathName.ofString path).extension

end Format

inductive Reason where
  | notUtf8 (fault : Text.Utf8Fault)
  | parseError
  | tooDeep
  | tooLarge (size : Nat) (limit : Int)
  | text (fault : TextFault)
deriving DecidableEq, Repr

def Reason.message : Reason → String
  | .notUtf8 fault => "not valid UTF-8: " ++ fault.message
  | .parseError => "parse error"
  | .tooDeep => "document nested too deeply"
  | .tooLarge size limit =>
    "document is " ++ toString size ++ " bytes, larger than the " ++ toString limit ++
      " byte limit"
  | .text fault => fault.message

structure Unusable where
  format : Format
  reason : Reason
deriving DecidableEq, Repr

def Unusable.message (u : Unusable) : String := u.format.name ++ ": " ++ u.reason.message

def checkSize (format : Format) (size : Nat) (limit : Int) : Except Unusable Unit :=
  if limit < size then .error ⟨format, .tooLarge size limit⟩ else .ok ()

end FileQuery.Document
