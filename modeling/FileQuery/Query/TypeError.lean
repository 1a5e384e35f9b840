import FileQuery.Document.Path.Reader
import FileQuery.Query.SyntaxError
import FileQuery.Query.Vocabulary

/-!
Errors in the selectors, operators and values of a query.
-/

namespace FileQuery.Query

inductive TypeErrorKind where
  | unknownSelector
  | unknownFormat
  | invalidPath
  | unknownOperator
  | incompatibleOperator
  | invalidValue
  | unknownAlias
deriving DecidableEq, Repr

def TypeErrorKind.text : TypeErrorKind → String
  | .unknownSelector => "unknown selector"
  | .unknownFormat => "unknown structured format"
  | .invalidPath => "invalid structured path"
  | .unknownOperator => "unknown operator"
  | .incompatibleOperator => "incompatible operator"
  | .invalidValue => "invalid value"
  | .unknownAlias => "unknown alias"

inductive ValueUse where
  | time
  | number
  | regex
  | document
deriving DecidableEq, Repr

def ValueUse.text : ValueUse → String
  | .time => "time"
  | .number => "number"
  | .regex => "regex"
  | .document => "value"

inductive TypeCause where
  | unknownSelector (spelling : String)
  | unknownFormat (spelling : String)
  | invalidPath (text : String) (cause : Document.PathCause) (position : Nat)
  | unknownOperator (spelling : String) (family : Family)
  | incompatibleOperator (spelling selector : String) (family : Family)
  | setWithoutIn (op : Operator) (remedy : String)
  | emptySet
  | invalidValue (use : ValueUse) (text reason : String)
  | invalidType (text : String)
  | bareSelector (word : String)
  | unknownAlias (word : String)
deriving DecidableEq, Repr

namespace TypeCause

def kind : TypeCause → TypeErrorKind
  | .unknownSelector _ => .unknownSelector
  | .unknownFormat _ => .unknownFormat
  | .invalidPath .. => .invalidPath
  | .unknownOperator .. => .unknownOperator
  | .incompatibleOperator .. => .incompatibleOperator
  | .setWithoutIn .. | .emptySet | .invalidValue .. | .invalidType _ => .invalidValue
  | .bareSelector _ | .unknownAlias _ => .unknownAlias

def text : TypeCause → String
  | .unknownSelector spelling => "Unknown selector '" ++ spelling ++ "'"
  | .unknownFormat spelling => "Unknown structured format '" ++ spelling ++ "'"
  | .invalidPath text cause position =>
    "Invalid structured path '" ++ text ++ "': " ++
      (Document.PathFault.refused cause position).message
  | .unknownOperator spelling _ => "Unknown operator '" ++ spelling ++ "'"
  | .incompatibleOperator spelling selector _ =>
    "Operator '" ++ spelling ++ "' cannot be used with '" ++ selector ++ "'"
  | .setWithoutIn op _ => "A set of values needs 'in', not '" ++ op.spelling ++ "'"
  | .emptySet => "Empty set"
  | .invalidValue use text _ => "Invalid " ++ use.text ++ " '" ++ text ++ "'"
  | .invalidType text => "Invalid type '" ++ text ++ "'"
  | .bareSelector word => "Selector '" ++ word ++ "' needs an operator and a value"
  | .unknownAlias word => "Unknown alias '" ++ word ++ "'"

/-- The spellings that would have been accepted, where they can be listed. -/
def valid : TypeCause → List String
  | .unknownSelector _ => Selector.all.map Selector.id
  | .unknownFormat _ => formatTable.map (·.1)
  | .unknownOperator _ family => canonicalOperators family
  | .incompatibleOperator _ _ family => canonicalOperators family
  | .invalidType _ => FileType.all.map FileType.name
  | .unknownAlias _ => fileTypeTable.map (·.1)
  | _ => []

def suggestion : TypeCause → String
  | .unknownSelector spelling => hint spelling (selectorTable.map (·.1))
  | .unknownFormat spelling => hint spelling (formatTable.map (·.1))
  | .invalidPath .. => "paths look like .field, .list[0], .list[*].x or ..field"
  | .unknownOperator spelling family => hint spelling ((operatorTable family).map (·.1))
  | .incompatibleOperator _ selector family =>
    "valid operators for '" ++ selector ++ "': " ++
      String.intercalate ", " (canonicalOperators family)
  | .setWithoutIn _ remedy => "write '" ++ remedy ++ "'"
  | .emptySet => "write 'in [a, b]'"
  | .invalidValue _ _ reason => reason
  | .invalidType text => fullHint text (FileType.all.map FileType.name)
  | .bareSelector word => "write '" ++ word ++ " <operator> <value>'"
  | .unknownAlias word => hint word (fileTypeTable.map (·.1))

end TypeCause

structure TypeError where
  cause : TypeCause
  position : Nat
  token : String
deriving DecidableEq, Repr

def TypeError.message (query : String) (e : TypeError) : String :=
  e.cause.text ++ " at byte " ++ toString (byteOffset query e.position) ++ "; " ++
    e.cause.suggestion

end FileQuery.Query
