import FileQuery.Evaluate.Fold
import FileQuery.Proofs.Query.Places
import FileQuery.Proofs.Query.RoundTrip

/-!
# The predicates of a query in their order

The predicates of a query can be read off its tokens without regard to nesting: combinators, negations
and parentheses are passed over.  Those of the tree are the same ones, checked, in the same order,
however the operands were taken together; and the tree is normal, so nothing in it is decided and no
operand is of the kind of its node.
-/

namespace FileQuery.Query

variable {stack : Pattern.Stack}

/-! ## 1. Going through a tree -/

def Expr.operands : Expr → List Expr
  | .pred _ => []
  | .known _ => []
  | .not e => [e]
  | .and es => es
  | .or es => es

theorem Expr.weightOf_append (es fs : List Expr) :
    weightOf (es ++ fs) = weightOf es + weightOf fs := by
  induction es with
  | nil => exact (Nat.zero_add _).symm
  | cons e es ih => rw [List.cons_append, weightOf, weightOf, ih, Nat.add_assoc]

theorem Expr.weightOf_operands_lt (e : Expr) : weightOf e.operands < e.weight := by
  cases e <;> simp [operands, weight, weightOf]

/-- The predicates of the trees on a stack, its top first: a tree that is no predicate gives way to its
operands. -/
def predicatesFrom : List Expr → List Predicate
  | [] => []
  | .pred p :: stack => p :: predicatesFrom stack
  | e :: stack => predicatesFrom (e.operands ++ stack)
termination_by stack => Expr.weightOf stack
decreasing_by
  · simp [Expr.weightOf, Expr.weight]
  · rw [Expr.weightOf_append, Expr.weightOf]
    exact Nat.add_lt_add_right e.weightOf_operands_lt _

theorem predicatesOf_append (es fs : List Expr) :
    predicatesOf (es ++ fs) = predicatesOf es ++ predicatesOf fs := by
  induction es with
  | nil => rfl
  | cons e es ih => rw [List.cons_append, predicatesOf, predicatesOf, ih, List.append_assoc]

theorem Expr.predicatesOf_operands {e : Expr} (h : ∀ p, e ≠ .pred p) :
    predicatesOf e.operands = e.predicates := by
  cases e with
  | pred p => exact absurd rfl (h p)
  | known b => rfl
  | not e => exact List.append_nil _
  | and es | or es => rfl

/-- Going through trees with a stack comes upon their predicates from left to right. -/
theorem predicatesFrom_eq (stack : List Expr) : predicatesFrom stack = predicatesOf stack := by
  fun_induction predicatesFrom stack with
  | case1 => rfl
  | case2 p stack ih => rw [ih]; rfl
  | case3 e stack hpred ih => rw [ih, predicatesOf_append, Expr.predicatesOf_operands hpred]; rfl

/-! ## 2. The predicates among tokens -/

/-- The predicates among tokens, from left to right.  A word that is no keyword is a selector; if
another one follows, that is its operator and the next token its value.  Everything else is passed
over. -/
def predicatesIn : List Token → List RawPredicate
  | [] => []
  | ⟨.word word, position⟩ :: ts =>
    if (keywordOf? word).isSome then predicatesIn ts
    else
      match ts with
      | ⟨.word operator, place⟩ :: t :: rest =>
        if (keywordOf? operator).isSome then
          ⟨word, position, none⟩ :: predicatesIn (⟨.word operator, place⟩ :: t :: rest)
        else
          ⟨word, position, t.value?.map fun value => ⟨operator, place, value⟩⟩ :: predicatesIn rest
      | ts => ⟨word, position, none⟩ :: predicatesIn ts
  | _ :: ts => predicatesIn ts

theorem predicatesIn_keyword {t : Token} {k : Keyword} (h : t.lexeme.keyword? = some k)
    (ts : List Token) : predicatesIn (t :: ts) = predicatesIn ts := by
  obtain ⟨lexeme, position⟩ := t
  cases lexeme with
  | word word =>
    have hkeyword : (keywordOf? word).isSome = true := Option.isSome_of_eq_some h
    rw [predicatesIn.eq_def]
    exact if_pos hkeyword
  | _ => rfl

namespace Grammar

theorem Predicate.predicatesIn_eq {ts rest : List Token} {p : RawPredicate}
    (h : Predicate ts p rest) : predicatesIn ts = p :: predicatesIn rest := by
  cases h with
  | @alone word position rest hword hrest =>
    have hselector : ¬(keywordOf? word).isSome = true := by simp [hword]
    rw [predicatesIn.eq_def]
    refine (if_neg hselector).trans ?_
    split
    · next operator place t ts =>
      -- what follows a lone word is a keyword
      have hkeyword : (keywordOf? operator).isSome = true := by
        have hplain := hrest _ rfl
        simpa [Token.isPlainWord] using hplain
      rw [if_pos hkeyword]
    · rfl
  | @comparison word operator position place t value rest hword hoperator hvalue =>
    have hselector : ¬(keywordOf? word).isSome = true := by simp [hword]
    have hplain : ¬(keywordOf? operator).isSome = true := by simp [hoperator]
    rw [predicatesIn.eq_def]
    simp only [hselector, hplain, hvalue, if_false, Option.map_some, Bool.false_eq_true]

mutual

/-- The predicates among the tokens are those that are derived, in the same order, and those among the
tokens that are left. -/
theorem Disjuncts.predicatesIn_eq : ∀ {ts rest : List Token} {es : List RawExpr},
    Disjuncts ts es rest → predicatesIn ts = rawPredicatesOf es ++ predicatesIn rest
  | _, _, _, .last hes => by
    rw [hes.predicatesIn_eq, rawPredicatesOf, rawPredicatesOf, RawExpr.predicates_joined,
      List.append_nil]
  | _, _, _, .more hes hor hfs => by
    rw [hes.predicatesIn_eq, predicatesIn_keyword hor, hfs.predicatesIn_eq, rawPredicatesOf,
      RawExpr.predicates_joined, List.append_assoc]

theorem Conjuncts.predicatesIn_eq : ∀ {ts rest : List Token} {es : List RawExpr},
    Conjuncts ts es rest → predicatesIn ts = rawPredicatesOf es ++ predicatesIn rest
  | _, _, _, .last he => by
    rw [he.predicatesIn_eq, rawPredicatesOf, rawPredicatesOf, List.append_nil]
  | _, _, _, .more he hand hes => by
    rw [he.predicatesIn_eq, predicatesIn_keyword hand, hes.predicatesIn_eq, rawPredicatesOf,
      List.append_assoc]

theorem Unary.predicatesIn_eq : ∀ {ts rest : List Token} {e : RawExpr},
    Unary ts e rest → predicatesIn ts = e.predicates ++ predicatesIn rest
  | _, _, _, .primary he => he.predicatesIn_eq
  | _, _, _, .not hnot he => by rw [predicatesIn_keyword hnot, he.predicatesIn_eq, RawExpr.predicates]

theorem Primary.predicatesIn_eq : ∀ {ts rest : List Token} {e : RawExpr},
    Primary ts e rest → predicatesIn ts = e.predicates ++ predicatesIn rest
  | _, _, _, .predicate hp => hp.predicatesIn_eq
  | _, _, _, .parens hes => by
    rw [predicatesIn, hes.predicatesIn_eq, predicatesIn, RawExpr.predicates_joined]
    all_goals exact nofun

end

/-- The predicates of a derived tree are those among its tokens, also when it has been made flat. -/
theorem Derives.predicatesIn_eq {ts : List Token} {e : RawExpr} (h : Derives ts e) :
    e.flat.predicates = predicatesIn ts := by
  obtain ⟨es, stop, hes, rfl⟩ := h
  rw [RawExpr.predicates_flat, RawExpr.predicates_joined, hes.predicatesIn_eq]
  exact (List.append_nil _).symm

end Grammar

/-! ## 3. Trees that are read -/

/-- A query that is read has a normal tree of well-typed predicates, and going through it comes upon
the checked predicates of the query in the order in which they are written. -/
theorem parse_in_order {clock : Clock} {query : String} {e : Expr}
    (h : parse stack clock query = .ok e) :
    e.Normal Predicate.WellTyped ∧ ∃ ts, tokenize query = .ok ts ∧
      (predicatesIn ts).mapM (checkPredicate stack clock) = .ok (predicatesFrom [e]) := by
  obtain ⟨ts, hts⟩ := exists_tokens_of_parse h
  obtain ⟨plain, hplain, hcheck⟩ := (parse_ok_iff hts clock e).1 h
  refine ⟨hplain.normal.check (fun _ _ _ => wellTyped_of_checkPredicate) hcheck, ts, hts, ?_⟩
  rw [← hplain.predicatesIn_eq, ← RawExpr.map_predicates_check, hcheck, predicatesFrom_eq]
  exact congrArg Except.ok (List.append_nil e.predicates).symm

/-- Disjunctions in parentheses are taken up, a conjunction among them is not, and a keyword is a
value. -/
theorem parse_in_order_nested :
    let e : Expr := .or [.pred ⟨.type, some .eq, .fileType .dir⟩,
      .pred ⟨.name, some .eq, .text "a"⟩,
      .not (.and [.pred ⟨.size, some .gt, .number 1⟩, .pred ⟨.name, some .eq, .text "AND"⟩])]
    parse (.ofDepth 9) ⟨.fixed 0 0, .fixed 0⟩
      "dir || (name == a || !(size > 1 AND name == AND))" = .ok e ∧
      e.Normal Predicate.WellTyped ∧ (predicatesFrom [e]).length = 4 := by
  intro e
  have hparse : parse (.ofDepth 9) ⟨.fixed 0 0, .fixed 0⟩
      "dir || (name == a || !(size > 1 AND name == AND))" = .ok e := by
    with_unfolding_all rfl
  refine ⟨hparse, (parse_in_order hparse).1, ?_⟩
  rw [predicatesFrom_eq]
  rfl

end FileQuery.Query
