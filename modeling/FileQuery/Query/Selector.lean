import FileQuery.Document.Format

/-!
What a predicate looks at: its selector, the cost of looking, and the kind of values it has.
-/

namespace FileQuery.Query

/-- Categories of predicates, in the order of what it costs to decide them: by the path alone, by the
entity's metadata, by its documents, by its content. -/
inductive Category where
  | name
  | metadata
  | structured
  | content
deriving DecidableEq, Repr

def Category.text : Category → String
  | .name => "name"
  | .metadata => "metadata"
  | .structured => "structured"
  | .content => "content"

/-- Kinds of values; each has operators of its own. -/
inductive Family where
  | string
  | numeric
  | temporal
  | enum
  | content
  | structured
deriving DecidableEq, Repr

inductive Selector where
  | name
  | basename
  | ext
  | path
  | dir
  | depth
  | size
  | type
  | modified
  | created
  | accessed
  | content
  | document (format : Document.Format)
deriving DecidableEq, Repr

namespace Selector

def id : Selector → String
  | .name => "name"
  | .basename => "basename"
  | .ext => "ext"
  | .path => "path"
  | .dir => "dir"
  | .depth => "depth"
  | .size => "size"
  | .type => "type"
  | .modified => "modified"
  | .created => "created"
  | .accessed => "accessed"
  | .content => "content"
  | .document format => format.name

def all : List Selector :=
  [.name, .basename, .ext, .path, .dir, .depth, .size, .type, .modified, .created, .accessed,
    .content, .document .yaml, .document .json, .document .toml]

def category : Selector → Category
  | .name | .basename | .ext | .path | .dir | .depth => .name
  | .size | .type | .modified | .created | .accessed => .metadata
  | .content => .content
  | .document _ => .structured

def family : Selector → Family
  | .name | .basename | .ext | .path | .dir => .string
  | .depth | .size => .numeric
  | .type => .enum
  | .modified | .created | .accessed => .temporal
  | .content => .content
  | .document _ => .structured

end Selector

end FileQuery.Query
