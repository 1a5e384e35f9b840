import FileQuery.Calendar.Zone
import FileQuery.Content.Matcher
import FileQuery.Document.Matcher
import FileQuery.FileType
import FileQuery.Query.Selector

/-!
The typed tree of a query.
-/

namespace FileQuery.Query

/-- What an attribute is compared with.  The members of a set are in the order of their texts, each
once. -/
inductive Operand where
  | text (s : String)
  | texts (items : List String)
  | number (n : Nat)
  | numbers (items : List Nat)
  | fileType (t : FileType)
  | fileTypes (items : List FileType)
  | moment (m : Calendar.PlacedMoment)
  | pattern (p : Pattern)
  | content (m : Content.Matcher)
  | document (m : Document.Matcher)
deriving DecidableEq, Repr

/-- A selector with its operator and value.  Only a document predicate may lack the operator; it asks
whether there is a value at all. -/
structure Predicate where
  selector : Selector
  operator : Option Operator
  operand : Operand
deriving DecidableEq, Repr

def Predicate.category (p : Predicate) : Category := p.selector.category

/-- A query, or what is left of one when some of its predicates are decided. -/
inductive Expr where
  | pred (p : Predicate)
  | known (value : Bool)
  | not (operand : Expr)
  | and (operands : List Expr)
  | or (operands : List Expr)
deriving Repr

mutual
def Expr.predicates : Expr → List Predicate
  | .pred p => [p]
  | .known _ => []
  | .not e => e.predicates
  | .and es => predicatesOf es
  | .or es => predicatesOf es
def predicatesOf : List Expr → List Predicate
  | [] => []
  | e :: es => e.predicates ++ predicatesOf es
end

theorem mem_predicatesOf {p : Predicate} {es : List Expr} :
    p ∈ predicatesOf es ↔ ∃ e ∈ es, p ∈ e.predicates := by
  induction es with
  | nil => simp [predicatesOf]
  | cons e es ih => simp [predicatesOf, ih]

end FileQuery.Query
