import FileQuery.Document.Json
import FileQuery.Document.Reader
import FileQuery.Document.Toml
import FileQuery.Text.Utf8

/-!
Documents from bytes.
-/

namespace FileQuery.Document

def readText (readers : Readers) (format : Format) (s : List Char) : Except ReadFault (List Root) :=
  match format with
  | .yaml => readers.yaml.readAll s
  | .json => (Json.read readers.jsonDepth s).map fun t => [t.toRoot]
  | .toml => (Toml.read readers.tomlDepth s).map fun t => [t.toRoot]

def load (readers : Readers) (format : Format) (bytes : List UInt8) :
    Except LoadFault (List Root) :=
  match Text.readUtf8 bytes with
  | .error fault => .error (.unusable ⟨format, .notUtf8 fault⟩)
  | .ok s => (readText readers format s).mapError (·.inFormat format)

end FileQuery.Document
