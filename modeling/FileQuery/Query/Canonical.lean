import FileQuery.Query.Expr

/-!
The canonical text of a query: canonical spellings, quoted values, sets in the order of their texts,
and parentheses only where they are needed.
-/

namespace FileQuery.Query

def quoteChar (c : Char) : List Char :=
  match c with
  | '\\' => ['\\', '\\']
  | '"' => ['\\', '"']
  | '\n' => ['\\', 'n']
  | '\r' => ['\\', 'r']
  | '\t' => ['\\', 't']
  | c => [c]

def quote (s : String) : String :=
  String.ofList ('"' :: s.toList.flatMap quoteChar ++ ['"'])

def bracketed (items : List String) : String :=
  "[" ++ String.intercalate ", " items ++ "]"

/-- Texts in code point order. -/
def inTextOrder {α : Type} (text : α → String) (items : List α) : List α :=
  items.mergeSort fun x y => decide (text x ≤ text y)

/-- The members of a set, each once and in the order of their texts. -/
def asSet {α : Type} [BEq α] (text : α → String) (items : List α) : List α :=
  inTextOrder text items.eraseDups

/-- The text of a value; a document condition writes its own. -/
def Operand.render : Operand → String
  | .text s => quote s
  | .texts items => bracketed (items.map quote)
  | .number n => toString n
  | .numbers items => bracketed (items.map toString)
  | .fileType t => t.name
  | .fileTypes items => bracketed (items.map FileType.name)
  | .moment m => quote m.iso
  | .pattern p => quote p.source
  | .content m => quote m.text
  | .document m => m.selectorText

def literalText (l : Document.Literal) : String :=
  if l.quoted then quote l.raw else l.raw

def conditionText (c : Document.Condition) : Option String :=
  match c with
  | .exists => none
  | .member items => some (bracketed (items.map fun l => quote l.raw))
  | .pattern l _ => some (literalText l)
  | .compare _ l => some (literalText l)

def Predicate.text (p : Predicate) : String :=
  match p.operand with
  | .document m =>
    match m.operator?, conditionText m.condition with
    | some op, some value => m.selectorText ++ " " ++ op.spelling ++ " " ++ value
    | _, _ => m.selectorText
  | operand =>
    p.selector.id ++ " " ++ ((p.operator.map Operator.spelling).getD "") ++ " " ++ operand.render

def Expr.isJoined : Expr → Bool
  | .and _ => true
  | .or _ => true
  | _ => false

def Expr.wrap (e : Expr) (text : String) : String :=
  if e.isJoined then "(" ++ text ++ ")" else text

mutual
def Expr.text : Expr → String
  | .pred p => p.text
  | .known b => if b then "true" else "false"
  | .not e => "!" ++ e.wrap e.text
  | .and es => String.intercalate " && " (textsOf es)
  | .or es => String.intercalate " || " (textsOf es)
def textsOf : List Expr → List String
  | [] => []
  | e :: es => e.wrap e.text :: textsOf es
end

def Predicate.isWritable (p : Predicate) : Bool :=
  match p.operand with
  | .number n => Number.isWritable n
  | .numbers items => items.all fun n => Number.isWritable n
  | _ => true

/-- The canonical text of a tree, if all its numbers can be written. -/
def Expr.canonical (e : Expr) : Except Document.TextFault String :=
  if e.predicates.all Predicate.isWritable then .ok e.text else .error .integerTooLong

end FileQuery.Query
