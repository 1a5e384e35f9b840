import FileQuery.Query.Canonical
import FileQuery.Query.Expr.OfRaw
import FileQuery.Query.Literal.Time
import FileQuery.Query.RawExpr.OfTokens
import FileQuery.Query.TypeError
import FileQuery.Text.Blank

/-!
From the untyped to the typed tree.  Selectors and operators are looked up, and every value is read
as its selector and operator ask.
-/

namespace FileQuery.Query

def splitCommas (item : List Char) : List Char → List (List Char)
  | [] => [item.reverse]
  | c :: rest =>
    if c == ',' then item.reverse :: splitCommas [] rest else splitCommas (c :: item) rest

def splitItems (text : String) : List String :=
  (((splitCommas [] text.toList).map Text.trim).filter (!·.isEmpty)).map String.ofList

/-- Faults that queries are not expected to have: something in them is out of all bounds. -/
inductive Breakdown where
  | literal (fault : LiteralFault)
  | index (fault : Number.IntegerFault)
  | pattern (fault : Pattern.Fault)
deriving DecidableEq, Repr

inductive QueryFault where
  | malformed (e : SyntaxError)
  | illTyped (e : TypeError)
  | brokenDown (b : Breakdown)
deriving DecidableEq, Repr

def refuseValue {α : Type} (value : RawValue) (cause : TypeCause) : Except QueryFault α :=
  .error (.illTyped ⟨cause, value.position, value.text⟩)

/-- The members of a value that is a set: those in brackets, a quoted value alone, or what stands
between commas. -/
def setMembers (value : RawValue) : Except QueryFault (List String) :=
  let items := match value.form with
    | .set items => items
    | .quoted => [value.text]
    | .bare => splitItems value.text
  if items.isEmpty then refuseValue value .emptySet else .ok items

def checkOperator (c : RawComparison) (family : Family) (selector : String) :
    Except QueryFault Operator :=
  let spelling := Text.lower c.operator
  match (operatorTable family).lookup spelling with
  | some op => .ok op
  | none =>
    let cause := if isOperatorSpelling spelling
      then TypeCause.incompatibleOperator c.operator selector family
      else TypeCause.unknownOperator c.operator family
    .error (.illTyped ⟨cause, c.operatorPosition, c.operator⟩)

def acceptLiteral {α : Type} (use : ValueUse) (value : RawValue) (text : String)
    (r : Except LiteralFault α) : Except QueryFault α :=
  match r with
  | .ok x => .ok x
  | .error fault =>
    if fault.isInvalidValue then refuseValue value (.invalidValue use text fault.message)
    else .error (.brokenDown (.literal fault))

def acceptPattern {α : Type} (value : RawValue) (r : Except Pattern.Fault α) :
    Except QueryFault α :=
  match r with
  | .ok x => .ok x
  | .error fault =>
    if fault.isRefusal then
      refuseValue value (.invalidValue .regex value.text (fault.message value.text))
    else .error (.brokenDown (.pattern fault))

def checkFileType (value : RawValue) (text : String) : Except QueryFault FileType :=
  match fileTypeTable.lookup (Text.lower text) with
  | some t => .ok t
  | none => .error (.illTyped ⟨.invalidType text, value.position, text⟩)

def checkText (stack : Pattern.Stack) (op : Operator) (value : RawValue) : Except QueryFault Operand :=
  match op with
  | .member => do return .texts (asSet quote (← setMembers value))
  | .matching => do return .pattern (← acceptPattern value (Pattern.ofRegex stack value.text))
  | .glob => .ok (.pattern (Pattern.ofGlob value.text))
  | _ => .ok (.text value.text)

def checkNumber (read : String → Except LiteralFault Nat) (op : Operator) (value : RawValue) :
    Except QueryFault Operand :=
  let one (text : String) := acceptLiteral .number value text (read text)
  match op with
  | .member => do return .numbers (asSet toString (← (← setMembers value).mapM one))
  | _ => do return .number (← one value.text)

def checkKind (op : Operator) (value : RawValue) : Except QueryFault Operand :=
  match op with
  | .member => do
    return .fileTypes (asSet FileType.name (← (← setMembers value).mapM (checkFileType value)))
  | _ => do return .fileType (← checkFileType value value.text)

def checkContent (stack : Pattern.Stack) (op : Operator) (value : RawValue) :
    Except QueryFault Operand :=
  match Content.Matcher.compile stack op value.text with
  | .ok m => .ok (.content m)
  | .error (.regex fault) => acceptPattern value (.error fault)
  -- the operators of content have been looked up before
  | .error (.operator _) => refuseValue value .emptySet

/-- Refuses a set in brackets where the operator takes one value. -/
def checkForm (op : Operator) (value : RawValue) (remedy : String) : Except QueryFault Unit :=
  match value.form with
  | .set _ => if op = .member then .ok () else refuseValue value (.setWithoutIn op remedy)
  | _ => .ok ()

def checkValue (stack : Pattern.Stack) (clock : Clock) (selector : Selector) (op : Operator)
    (value : RawValue) :
    Except QueryFault Operand := do
  checkForm op value (selector.id ++ " in " ++ value.text)
  match selector.family with
  | .string => checkText stack op value
  | .numeric => checkNumber (if selector = .size then readSize else readCount) op value
  | .temporal =>
    return .moment (← acceptLiteral .time value value.text (readMoment clock value.text))
  | .enum => checkKind op value
  | _ => checkContent stack op value

def splitColon (word : String) : String × String :=
  let s := word.toList
  let front := s.takeWhile (· != ':')
  (String.ofList front, String.ofList (s.drop (front.length + 1)))

def checkFormat (raw : RawPredicate) (front : String) : Except QueryFault Document.Format :=
  match formatTable.lookup (Text.lower front) with
  | some format => .ok format
  | none => .error (.illTyped ⟨.unknownFormat front, raw.position, front⟩)

def checkPath (raw : RawPredicate) (front pathText : String) :
    Except QueryFault Document.Path :=
  match Document.Path.read pathText with
  | .ok path => .ok path
  | .error (.refused cause position) =>
    .error (.illTyped ⟨.invalidPath pathText cause position,
      raw.position + front.length + 1 + position, pathText⟩)
  | .error (.index fault) => .error (.brokenDown (.index fault))

def membersFor (op : Operator) (value : RawValue) : Except QueryFault (List String) :=
  if op = .member then setMembers value else .ok []

def acceptMatcher (value : RawValue) (r : Except Document.MatcherFault Document.Matcher) :
    Except QueryFault Document.Matcher :=
  match r with
  | .ok m => .ok m
  | .error fault =>
    match fault.unforeseen? with
    | some patternFault => .error (.brokenDown (.pattern patternFault))
    | none => refuseValue value (.invalidValue .document value.text fault.message)

def checkComparison (stack : Pattern.Stack) (front : String) (format : Document.Format)
    (path : Document.Path)
    (c : RawComparison) : Except QueryFault Predicate := do
  let op ← checkOperator c .structured (Text.lower front)
  checkForm op c.value "in [a, b]"
  let items ← membersFor op c.value
  let m ← acceptMatcher c.value
    (Document.Matcher.compile stack format path (some op) c.value.text (c.value.form == .quoted) items)
  return ⟨.document format, some op, .document m⟩

def checkDocument (stack : Pattern.Stack) (raw : RawPredicate) : Except QueryFault Predicate := do
  let parts := splitColon raw.selector
  let format ← checkFormat raw parts.1
  let path ← checkPath raw parts.1 parts.2
  match raw.comparison with
  | none => return ⟨.document format, none, .document ⟨format, path, .exists⟩⟩
  | some c => checkComparison stack parts.1 format path c

def hasWildcard (word : String) : Bool :=
  word.toList.any fun c => c == '*' || c == '?' || c == '['

def checkWord (stack : Pattern.Stack) (raw : RawPredicate) : Except QueryFault Predicate :=
  let word := raw.selector
  if word.toList.contains ':' then checkDocument stack raw
  else
    match fileTypeTable.lookup (Text.lower word) with
    | some t => .ok ⟨.type, some .eq, .fileType t⟩
    | none =>
      if hasWildcard word then
        let selector := if word.toList.contains '/' then Selector.path else Selector.name
        .ok ⟨selector, some .glob, .pattern (Pattern.ofGlob word)⟩
      else
        let cause := if (selectorTable.lookup (Text.lower word)).isSome
          then TypeCause.bareSelector word
          else TypeCause.unknownAlias word
        .error (.illTyped ⟨cause, raw.position, word⟩)

def checkPredicate (stack : Pattern.Stack) (clock : Clock) (raw : RawPredicate) :
    Except QueryFault Predicate :=
  match raw.comparison with
  | none => checkWord stack raw
  | some c =>
    if raw.selector.toList.contains ':' then checkDocument stack raw
    else
      match selectorTable.lookup (Text.lower raw.selector) with
      | none =>
        .error (.illTyped ⟨.unknownSelector raw.selector, raw.position, raw.selector⟩)
      | some selector => do
        let op ← checkOperator c selector.family selector.id
        return ⟨selector, some op, ← checkValue stack clock selector op c.value⟩

mutual
/-- Replaces every predicate of an untyped tree by its checked form, from left to right; the first
one that is refused ends the check.  `Expr.ofRaw` does the same without recursion. -/
def RawExpr.check {ε : Type} (test : RawPredicate → Except ε Predicate) :
    RawExpr → Except ε Expr
  | .pred p => (test p).map .pred
  | .not e => (e.check test).map .not
  | .and es => (checkAll test es).map .and
  | .or es => (checkAll test es).map .or
def checkAll {ε : Type} (test : RawPredicate → Except ε Predicate) :
    List RawExpr → Except ε (List Expr)
  | [] => .ok []
  | e :: es =>
    match e.check test with
    | .error fault => .error fault
    | .ok e =>
      match checkAll test es with
      | .error fault => .error fault
      | .ok es => .ok (e :: es)
end

def parse (stack : Pattern.Stack) (clock : Clock) (query : String) : Except QueryFault Expr :=
  match parseRaw query with
  | .error e => .error (.malformed e)
  | .ok raw =>
    match Expr.ofRaw (checkPredicate stack clock) raw with
    | .error fault => .error fault
    | .ok (some e) => .ok e
    -- the results never run out (no query reaches this), so any error would do
    | .ok none => .error (.malformed ⟨.unexpectedEnd, query.length, operandStart⟩)

end FileQuery.Query
