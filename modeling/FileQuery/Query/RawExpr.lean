import FileQuery.Query.Token

/-!
The untyped tree of a query: selectors, operators and values as they are written, joined by not,
and, or.  Nothing here knows which selectors or operators exist.
-/

namespace FileQuery.Query

/-- How a value is written: bare, in quotes, or as a bracketed set. -/
inductive ValueForm where
  | bare
  | quoted
  | set (items : List String)
deriving DecidableEq, Repr

/-- A value as written.  The text is unescaped; the text of a set is its source. -/
structure RawValue where
  text : String
  position : Nat
  form : ValueForm
deriving DecidableEq, Repr

def RawValue.items? (v : RawValue) : Option (List String) :=
  match v.form with
  | .set items => some items
  | _ => none

structure RawComparison where
  operator : String
  operatorPosition : Nat
  value : RawValue
deriving DecidableEq, Repr

/-- A selector with its comparison, or a lone word. -/
structure RawPredicate where
  selector : String
  position : Nat
  comparison : Option RawComparison
deriving DecidableEq, Repr

inductive RawExpr where
  | pred (p : RawPredicate)
  | not (operand : RawExpr)
  | and (operands : List RawExpr)
  | or (operands : List RawExpr)
deriving Repr

inductive Junction where
  | and
  | or
deriving DecidableEq, Repr

namespace RawExpr

def operandsOf : Junction → RawExpr → List RawExpr
  | .and, .and operands => operands
  | .or, .or operands => operands
  | _, e => [e]

def join : Junction → List RawExpr → RawExpr
  | .and, operands => .and operands
  | .or, operands => .or operands

def combine (j : Junction) (left right : RawExpr) : RawExpr :=
  join j (operandsOf j left ++ operandsOf j right)

end RawExpr

end FileQuery.Query
