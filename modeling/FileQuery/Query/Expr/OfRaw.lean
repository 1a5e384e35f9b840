import FileQuery.Query.Expr
import FileQuery.Query.RawExpr

/-!
From the untyped to the typed tree, given a check of predicates.

The loop keeps a stack of trees that wait to be checked and a stack of results.  A node waits twice:
first it puts its operands before itself, and when they have been checked it is built from as many
results as it has operands.  So nesting costs no recursion.
-/

namespace FileQuery.Query

def RawExpr.operands : RawExpr → List RawExpr
  | .pred _ => []
  | .not e => [e]
  | .and es => es
  | .or es => es

def RawExpr.build? : RawExpr → List Expr → Option Expr
  | .not _, e :: _ => some (.not e)
  | .and _, es => some (.and es)
  | .or _, es => some (.or es)
  | _, _ => none

/-- A tree that waits to be checked: before its operands, or after them. -/
structure Unchecked where
  expr : RawExpr
  isExpanded : Bool

mutual
/-- A bound on how often a tree and the trees in it come to the top of the stack. -/
def RawExpr.visits : RawExpr → Nat
  | .pred _ => 2
  | .not e => e.visits + 2
  | .and es => visitsOf es + 2
  | .or es => visitsOf es + 2
/-- A bound on how often several trees come to the top of the stack. -/
def visitsOf : List RawExpr → Nat
  | [] => 0
  | e :: es => e.visits + visitsOf es
end

/-- A bound on how often waiting trees come to the top of the stack. -/
def visitsLeft : List Unchecked → Nat
  | [] => 0
  | u :: unchecked => (if u.isExpanded then 1 else u.expr.visits) + visitsLeft unchecked

/-- Puts trees on the stack, the first of them on top. -/
def waitFor (es : List RawExpr) (unchecked : List Unchecked) : List Unchecked :=
  es.map (fun e => ⟨e, false⟩) ++ unchecked

theorem visitsLeft_waitFor (es : List RawExpr) (unchecked : List Unchecked) :
    visitsLeft (waitFor es unchecked) = visitsOf es + visitsLeft unchecked := by
  induction es with
  | nil => rw [visitsOf, Nat.zero_add]; rfl
  | cons e es ih => rw [visitsOf, Nat.add_assoc, ← ih]; rfl

theorem visitsOf_operands (e : RawExpr) : visitsOf e.operands + 2 = e.visits := by
  cases e <;> rfl

/-- Takes the given number of results off their stack, whose top is its head, and puts them in the
order in which they were pushed.  The number zero stands for all of them. -/
def takeResults (count : Nat) (results : List Expr) : List Expr × List Expr :=
  if count = 0 then (results.reverse, [])
  else ((results.take count).reverse, results.drop count)

/-- Checks the waiting trees from the top of their stack on and pushes the results.  The first
predicate that is refused ends the loop; there is no result if an operand is missing. -/
def checkUnchecked {ε : Type} (test : RawPredicate → Except ε Predicate) (unchecked : List Unchecked)
    (results : List Expr) : Except ε (Option (List Expr)) :=
  match unchecked with
  | [] => .ok (some results)
  | ⟨.pred p, _⟩ :: unchecked =>
    match test p with
    | .error fault => .error fault
    | .ok x => checkUnchecked test unchecked (.pred x :: results)
  | ⟨e, false⟩ :: unchecked =>
    checkUnchecked test (waitFor e.operands (⟨e, true⟩ :: unchecked)) results
  | ⟨e, true⟩ :: unchecked =>
    match e.build? (takeResults e.operands.length results).1 with
    | none => .ok none
    | some x => checkUnchecked test unchecked (x :: (takeResults e.operands.length results).2)
termination_by visitsLeft unchecked
decreasing_by
  · cases ‹Bool› <;> simp [visitsLeft, RawExpr.visits]
  · rw [visitsLeft_waitFor, visitsLeft, visitsLeft, ← visitsOf_operands]
    simp only [if_true, Bool.false_eq_true, if_false]
    omega
  · simp [visitsLeft]

/-- Replaces every predicate of an untyped tree by its checked form; none if a stack has nothing left
to take. -/
def Expr.ofRaw {ε : Type} (test : RawPredicate → Except ε Predicate) (raw : RawExpr) :
    Except ε (Option Expr) :=
  (checkUnchecked test [⟨raw, false⟩] []).map fun results => results.bind List.getLast?

end FileQuery.Query
