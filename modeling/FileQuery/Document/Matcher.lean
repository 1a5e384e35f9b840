import FileQuery.Document.Format
import FileQuery.Document.Navigate
import FileQuery.Document.Path.Reader
import FileQuery.Document.Text
import FileQuery.Operator
import FileQuery.Pattern.Compile
import FileQuery.Text.Search

/-!
Conditions on documents: a path, and what at least one of the values that it leads to has to satisfy.
Values are compared as they are, and by their texts where that fails, so `8080` is equal to the number
and to the text.
-/

namespace FileQuery.Document

/-- A value to compare with: as written, and what it spells.  Quoted values spell themselves. -/
structure Literal where
  raw : String
  value : Scalar
  quoted : Bool
deriving DecidableEq, Repr

def Literal.read (raw : String) (quoted : Bool) : Except Number.IntegerFault Literal :=
  if quoted then .ok ⟨raw, .str raw, true⟩
  else (readLiteral raw).map (⟨raw, ·, false⟩)

/-- Whether a scalar is equal to a literal as it is. -/
def Literal.same (l : Literal) (s : Scalar) : Bool :=
  match s.numeric?, l.value.numeric? with
  | some x, some y => x.same y
  | none, none => s == l.value
  | _, _ => false

/-- Whether a value is equal to a literal, as it is or by its text. -/
def Literal.equals (limit : TextLimit) (store : Store) (l : Literal) (v : Value) :
    Except TextFault Bool := do
  let native := match v with
    | .scalar s => l.same s
    | .node _ => false
  if native then return true else return (← textOf limit store v) == l.raw

inductive Condition where
  | exists
  | member (items : List Literal)
  | pattern (l : Literal) (p : Pattern)
  | compare (op : Operator) (l : Literal)
deriving DecidableEq, Repr

structure Matcher where
  format : Format
  path : Path
  condition : Condition
deriving DecidableEq, Repr

inductive MatcherFault where
  | literal (fault : Number.IntegerFault)
  | noItems
  | notNumeric (op : Operator) (raw : String)
  | number (fault : TextFault)
  | regex (raw : String) (fault : Pattern.Fault)
deriving DecidableEq, Repr

def MatcherFault.message : MatcherFault → String
  | .literal fault => fault.message
  | .noItems => "'in' needs at least one value"
  | .notNumeric op raw => "'" ++ op.spelling ++ "' needs a numeric value, got '" ++ raw ++ "'"
  | .number fault => fault.message
  | .regex raw fault =>
    if fault.isRefusal then "invalid regex '" ++ raw ++ "': " ++ fault.message raw
    else fault.message raw

/-- The fault of a pattern that is not told to the author of a query as an invalid value. -/
def MatcherFault.unforeseen? : MatcherFault → Option Pattern.Fault
  | .regex _ fault => if fault.isValueFault then none else some fault
  | _ => none

namespace Matcher

def checkNumeric (op : Operator) (literal : Literal) : Except MatcherFault Unit :=
  if op.isOrdering then do
    if (← literal.value.asNumber.mapError .number).isNone then throw (.notNumeric op literal.raw)
  else .ok ()

/-- The condition that an operator and its value make up; without an operator, that there is a value
at all. -/
def compile (stack : Pattern.Stack) (format : Format) (path : Path) (op : Option Operator)
    (raw : String) (quoted : Bool)
    (items : List String) : Except MatcherFault Matcher :=
  match op with
  | none => .ok ⟨format, path, .exists⟩
  | some .member => do
    let members ← items.mapM fun item => (Literal.read item false).mapError .literal
    if members.isEmpty then throw .noItems
    return ⟨format, path, .member members⟩
  | some op => do
    let literal ← (Literal.read raw quoted).mapError .literal
    checkNumeric op literal
    if op = .matching then
      let p ← (Pattern.ofRegex stack raw).mapError (.regex raw)
      return ⟨format, path, .pattern literal p⟩
    return ⟨format, path, .compare op literal⟩

def selectorText (m : Matcher) : String := m.format.name ++ ":" ++ m.path.text

def operator? (m : Matcher) : Option Operator :=
  match m.condition with
  | .exists => none
  | .member _ => some .member
  | .pattern .. => some .matching
  | .compare op _ => some op

end Matcher

/-- Whether some element satisfies a test that can fail; the elements after it are not looked at. -/
def anyOk {α ε : Type} (test : α → Except ε Bool) : List α → Except ε Bool
  | [] => .ok false
  | x :: rest => do if ← test x then return true else anyOk test rest

theorem anyOk_cons {α ε : Type} (test : α → Except ε Bool) (x : α) (rest : List α) :
    anyOk test (x :: rest) = (do if ← test x then return true else anyOk test rest) := rfl

def inOrder (op : Operator) : Option Numeric → Option Numeric → Bool
  | some x, some y =>
    match x.compare? y with
    -- the other operators by order are gone, and what is left counts as at most
    | some o => (op.decide? o).getD (o != .gt)
    | none => false
  | _, _ => false

def Condition.holds (limit : TextLimit) (store : Store) (c : Condition) (v : Value) :
    Except TextFault Bool :=
  match c with
  | .exists => .ok true
  | .member items => anyOk (fun l => l.equals limit store v) items
  | .pattern _ p => do return p.holds (← textOf limit store v)
  | .compare .eq l => l.equals limit store v
  | .compare .ne l => do return !(← l.equals limit store v)
  | .compare .contains l =>
    match store.items? v with
    | some items => anyOk (l.equals limit store) items
    | none => do return Text.occursIn l.raw.toList (← textOf limit store v).toList
  | .compare op l =>
    match v with
    | .node _ => .ok false
    | .scalar s => do return inOrder op (← s.asNumber) (← l.value.asNumber)

def Matcher.holds (limit : TextLimit) (m : Matcher) (documents : List Root) : Except TextFault Bool :=
  anyOk (fun root =>
    match m.condition with
    | .exists => .ok !(navigate root m.path).isEmpty
    | c => anyOk (c.holds limit root.store) (navigate root m.path)) documents

end FileQuery.Document
