import FileQuery.Number.Integer
import FileQuery.Text.Alphanumeric

/-!
Paths into documents, and how they are written.
-/

namespace FileQuery.Document

/-- One step of a path: to a member of a map, to a member of that name at any depth, to an item of a
list, or to all items. -/
inductive Segment where
  | field (name : String)
  | recursive (name : String)
  | index (n : Nat)
  | wildcard
deriving DecidableEq, Repr

abbrev Path := List Segment

def isNameChar (c : Char) : Bool :=
  Text.isAlphanumeric c || c == '_' || c == '-'

def isBareName (name : String) : Bool :=
  !name.isEmpty && name.toList.all isNameChar

def nameChar (c : Char) : List Char :=
  if c == '\\' || c == '"' then ['\\', c] else [c]

def quotedName (name : String) : String :=
  "[\"" ++ String.ofList (name.toList.flatMap nameChar) ++ "\"]"

def nameText (name : String) : String :=
  if isBareName name then name else quotedName name

def Segment.text : Segment → String
  | .field name => if isBareName name then "." ++ name else quotedName name
  | .recursive name => ".." ++ nameText name
  | .index n => "[" ++ toString n ++ "]"
  | .wildcard => "[*]"

/-- How a path is written: it starts with a point in any case. -/
def Path.text (path : Path) : String :=
  let text := String.join (path.map Segment.text)
  if text.toList.head? == some '.' then text else "." ++ text

end FileQuery.Document
