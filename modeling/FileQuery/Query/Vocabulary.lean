import FileQuery.FileType
import FileQuery.Operator
import FileQuery.Query.Selector
import FileQuery.Text.Case
import FileQuery.Text.Similarity

/-!
The spellings that queries know, all in lower case, and the hints for those they do not know.
-/

namespace FileQuery.Query

def selectorTable : List (String × Selector) :=
  [("name", .name), ("filename", .name), ("basename", .basename), ("stem", .basename),
    ("ext", .ext), ("extension", .ext), ("path", .path), ("dir", .dir), ("parent", .dir),
    ("directory", .dir), ("depth", .depth), ("size", .size), ("filesize", .size),
    ("bytes", .size), ("type", .type), ("filetype", .type), ("modified", .modified),
    ("mtime", .modified), ("created", .created), ("ctime", .created), ("accessed", .accessed),
    ("atime", .accessed), ("content", .content), ("contents", .content), ("text", .content)]

def formatTable : List (String × Document.Format) :=
  [("yaml", .yaml), ("json", .json), ("toml", .toml)]

def fileTypeTable : List (String × FileType) :=
  [("file", .file), ("dir", .dir), ("directory", .dir), ("symlink", .symlink),
    ("link", .symlink), ("socket", .socket), ("sock", .socket), ("fifo", .fifo),
    ("pipe", .fifo), ("block", .block), ("blockdev", .block), ("char", .char),
    ("chardev", .char)]

def equalityTable : List (String × Operator) :=
  [("==", .eq), ("=", .eq), ("eq", .eq), ("!=", .ne), ("<>", .ne), ("ne", .ne), ("neq", .ne)]

def matchingTable : List (String × Operator) :=
  [("~=", .matching), ("=~", .matching), ("~", .matching), ("matches", .matching),
    ("regex", .matching)]

def containsTable : List (String × Operator) :=
  [("contains", .contains), ("has", .contains), ("includes", .contains)]

def orderTable : List (String × Operator) :=
  [(">", .gt), ("gt", .gt), (">=", .ge), ("=>", .ge), ("gte", .ge), ("ge", .ge), ("<", .lt),
    ("lt", .lt), ("<=", .le), ("=<", .le), ("lte", .le), ("le", .le)]

def memberTable : List (String × Operator) := [("in", .member)]

def operatorTable : Family → List (String × Operator)
  | .string =>
    equalityTable ++ matchingTable ++ containsTable ++ memberTable ++
      [("glob", .glob), ("like", .glob)]
  | .numeric => equalityTable ++ orderTable ++ memberTable
  | .temporal => equalityTable ++ orderTable ++ [("on", .eq), ("before", .lt), ("after", .gt)]
  | .enum => equalityTable ++ memberTable
  | .content => [("==", .eq), ("=", .eq), ("eq", .eq)] ++ matchingTable ++ containsTable
  | .structured => equalityTable ++ orderTable ++ matchingTable ++ containsTable ++ memberTable

def families : List Family := [.string, .numeric, .temporal, .enum, .content, .structured]

def isOperatorSpelling (spelling : String) : Bool :=
  families.any fun family => ((operatorTable family).lookup spelling).isSome

def canonicalOperators (family : Family) : List String :=
  ((operatorTable family).map fun entry => entry.2.spelling).eraseDups

def nearest (spelling : String) (known : List String) : List String :=
  Text.closest (Text.lower spelling) known

def listing (known : List String) : String :=
  "valid values: " ++ String.intercalate ", " known

def hint (spelling : String) (known : List String) : String :=
  match nearest spelling known with
  | [] => listing known
  | near =>
    "did you mean " ++ String.intercalate " or " (near.map fun n => "'" ++ n ++ "'") ++ "?"

def fullHint (spelling : String) (known : List String) : String :=
  match nearest spelling known with
  | [] => listing known
  | _ => hint spelling known ++ " " ++ listing known

end FileQuery.Query
