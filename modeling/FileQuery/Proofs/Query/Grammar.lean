import FileQuery.Query.RawExpr.OfTokens

/-!
# The grammar of queries

What the tokens of a query have to look like, stated without stacks and without precedence numbers.
A derivation relates the tokens from some place on to what is read there and to the tokens that are
left.  Keywords are combinators wherever a combinator may stand; only as a value is a keyword an
ordinary word.
-/

namespace FileQuery.Query

/-- Whether a token is a word that is no keyword.  Right after a selector such a word is an operator. -/
def Token.isPlainWord (t : Token) : Bool :=
  match t.lexeme with
  | .word text => (keywordOf? text).isNone
  | _ => false

namespace RawExpr

/-- One operand stands for itself, several are joined in one node. -/
def joined (j : Junction) : List RawExpr → RawExpr
  | [e] => e
  | es => join j es

mutual
/-- The tree in which no node has an operand of its own kind: such operands give way to their
operands, from left to right. -/
def flat : RawExpr → RawExpr
  | .pred p => .pred p
  | .not e => .not e.flat
  | .and es => .and (flatOperands .and es)
  | .or es => .or (flatOperands .or es)
def flatOperands (j : Junction) : List RawExpr → List RawExpr
  | [] => []
  | e :: es => operandsOf j e.flat ++ flatOperands j es
end

end RawExpr

namespace Grammar

/-- `predicate = selector, [ operator, value ]`.  A selector stands alone only where no plain word
follows it. -/
inductive Predicate : List Token → RawPredicate → List Token → Prop
  | alone {word : String} {position : Nat} {rest : List Token} :
      keywordOf? word = none → (∀ t ∈ rest.head?, t.isPlainWord = false) →
      Predicate (⟨.word word, position⟩ :: rest) ⟨word, position, none⟩ rest
  | comparison {word operator : String} {position place : Nat} {t : Token} {value : RawValue}
      {rest : List Token} :
      keywordOf? word = none → keywordOf? operator = none → t.value? = some value →
      Predicate (⟨.word word, position⟩ :: ⟨.word operator, place⟩ :: t :: rest)
        ⟨word, position, some ⟨operator, place, value⟩⟩ rest

mutual
/-- `or_expr = and_expr, { ("||" | "OR"), and_expr }`: the operands, from left to right. -/
inductive Disjuncts : List Token → List RawExpr → List Token → Prop
  | last {ts rest : List Token} {es : List RawExpr} :
      Conjuncts ts es rest → Disjuncts ts [.joined .and es] rest
  | more {t : Token} {ts us rest : List Token} {es fs : List RawExpr} :
      Conjuncts ts es (t :: us) → t.lexeme.keyword? = some (.junction .or) →
      Disjuncts us fs rest → Disjuncts ts (.joined .and es :: fs) rest
/-- `and_expr = unary, { ("&&" | "AND"), unary }`: the operands, from left to right. -/
inductive Conjuncts : List Token → List RawExpr → List Token → Prop
  | last {ts rest : List Token} {e : RawExpr} :
      Unary ts e rest → Conjuncts ts [e] rest
  | more {t : Token} {ts us rest : List Token} {e : RawExpr} {es : List RawExpr} :
      Unary ts e (t :: us) → t.lexeme.keyword? = some (.junction .and) →
      Conjuncts us es rest → Conjuncts ts (e :: es) rest
/-- `unary = { "!" | "NOT" }, primary`. -/
inductive Unary : List Token → RawExpr → List Token → Prop
  | primary {ts rest : List Token} {e : RawExpr} : Primary ts e rest → Unary ts e rest
  | not {t : Token} {ts rest : List Token} {e : RawExpr} :
      t.lexeme.keyword? = some .not → Unary ts e rest → Unary (t :: ts) (.not e) rest
/-- `primary = predicate | "(", or_expr, ")"`. -/
inductive Primary : List Token → RawExpr → List Token → Prop
  | predicate {ts rest : List Token} {p : RawPredicate} :
      Predicate ts p rest → Primary ts (.pred p) rest
  | parens {ts rest : List Token} {es : List RawExpr} {start stop : Nat} :
      Disjuncts ts es (⟨.closeParen, stop⟩ :: rest) →
      Primary (⟨.openParen, start⟩ :: ts) (.joined .or es) rest
end

/-- `query = or_expr`, up to the end of the tokens.  The tree nests as the rules do. -/
def Derives (ts : List Token) (e : RawExpr) : Prop :=
  ∃ es stop, Disjuncts ts es [⟨.finish, stop⟩] ∧ e = .joined .or es

end Grammar

/-- Tokens of a query: a token that marks the end stands at the end and nowhere else. -/
inductive Ended : List Token → Prop
  | finish (position : Nat) : Ended [⟨.finish, position⟩]
  | cons {t : Token} {ts : List Token} : t.lexeme ≠ .finish → Ended ts → Ended (t :: ts)

theorem Ended.ne_nil {ts : List Token} (h : Ended ts) : ts ≠ [] := by
  cases h <;> exact List.cons_ne_nil _ _

theorem Ended.of_append {before ts : List Token} (h : Ended (before ++ ts)) (hne : ts ≠ []) :
    Ended ts := by
  induction before with
  | nil => exact h
  | cons t before ih =>
    cases h' : before ++ ts with
    | nil => exact absurd (List.append_eq_nil_iff.1 h').2 hne
    | cons u us =>
      rw [List.cons_append, h'] at h
      cases h with
      | cons _ hrest => exact ih (h' ▸ hrest)

theorem Ended.tail_of_keyword {t : Token} {ts : List Token} {k : Keyword} (h : Ended (t :: ts))
    (hk : t.lexeme.keyword? = some k) : Ended ts := by
  cases h with
  | finish => cases hk
  | cons _ hts => exact hts

end FileQuery.Query
