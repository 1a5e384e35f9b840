import FileQuery.Query.Expr

/-!
Deciding a tree as far as its predicates are known.  A joined tree is decided by the first operand
that decides it, and the operands after that are not looked at; decided operands that change nothing
are left out.  Folding keeps the operands to come on a stack of its own, so a tree can be nested as
deep as memory allows.
-/

namespace FileQuery.Query

namespace Expr

def known? : Expr → Option Bool
  | .known b => some b
  | _ => none

def negate : Expr → Expr
  | .known b => .known !b
  | e => .not e

/-- The join of operands: all of them have to hold, or one of them. -/
def joined (isAnd : Bool) (operands : List Expr) : Expr :=
  if isAnd then .and operands else .or operands

/-- The join of folded operands: decided if one of them decides it or all are decided, an operand
alone, or a join of those that are not decided. -/
def join (isAnd : Bool) (operands : List Expr) : Expr :=
  if operands.any (·.known? == some !isAnd) then .known !isAnd
  else
    match operands.filter (·.known?.isNone) with
    | [] => .known isAnd
    | [e] => e
    | es => joined isAnd es

mutual
def weight : Expr → Nat
  | .pred _ => 2
  | .known _ => 2
  | .not e => e.weight + 2
  | .and es => weightOf es + 2
  | .or es => weightOf es + 2
def weightOf : List Expr → Nat
  | [] => 0
  | e :: es => e.weight + weightOf es
end

/-- Whether folding left a tree as it was: nothing in it was decided and nothing was joined anew. -/
def isKept : Expr → Expr → Bool
  | .pred _, .pred _ => true
  | .known _, .known _ => true
  | .not a, .not b => a.isKept b
  | _, _ => false

end Expr

/-- What waits for the tree that is being folded: its negation, or a join with the operands folded so
far in reverse and those to come. -/
inductive Pending where
  | not
  | join (isAnd : Bool) (done rest : List Expr)

/-- What happens next: a tree is folded, or it has been. -/
inductive Focus where
  | visit (e : Expr)
  | done (e : Expr)

def pendingWeight : List Pending → Nat
  | [] => 0
  | .not :: stack => pendingWeight stack + 1
  | .join _ _ rest :: stack => pendingWeight stack + Expr.weightOf rest + 1

def Focus.weight : Focus → Nat
  | .visit e => e.weight
  | .done _ => 1

def foldFrom {m : Type → Type} [Monad m] (resolve : Predicate → m (Option Bool))
    (stack : List Pending) (focus : Focus) : m Expr :=
  match focus with
  | .visit (.pred p) => do
    match ← resolve p with
    | some b => foldFrom resolve stack (.done (.known b))
    | none => foldFrom resolve stack (.done (.pred p))
  | .visit (.known b) => foldFrom resolve stack (.done (.known b))
  | .visit (.not e) => foldFrom resolve (.not :: stack) (.visit e)
  | .visit (.and []) => foldFrom resolve stack (.done (Expr.join true []))
  | .visit (.or []) => foldFrom resolve stack (.done (Expr.join false []))
  | .visit (.and (e :: es)) => foldFrom resolve (.join true [] es :: stack) (.visit e)
  | .visit (.or (e :: es)) => foldFrom resolve (.join false [] es :: stack) (.visit e)
  | .done e =>
    match stack with
    | [] => pure e
    | .not :: stack => foldFrom resolve stack (.done e.negate)
    | .join isAnd done [] :: stack =>
      foldFrom resolve stack (.done (Expr.join isAnd (e :: done).reverse))
    | .join isAnd done (next :: rest) :: stack =>
      if e.known? == some !isAnd then
        foldFrom resolve stack (.done (Expr.join isAnd (e :: done).reverse))
      else foldFrom resolve (.join isAnd (e :: done) rest :: stack) (.visit next)
termination_by pendingWeight stack + focus.weight
decreasing_by
  all_goals simp only [pendingWeight, Focus.weight, Expr.weight, Expr.weightOf]
  all_goals omega

def Expr.fold {m : Type → Type} [Monad m] (resolve : Predicate → m (Option Bool)) (e : Expr) :
    m Expr :=
  foldFrom resolve [] (.visit e)

end FileQuery.Query
