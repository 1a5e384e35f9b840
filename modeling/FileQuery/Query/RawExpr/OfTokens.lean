import FileQuery.Query.RawExpr

/-!
From tokens to the untyped tree.

The grammar, from the loosest to the tightest level:

* a disjunction is conjunctions joined by `||` or `OR`;
* a conjunction is unaries joined by `&&` or `AND`;
* a unary is any number of `!` or `NOT` before a primary;
* a primary is a predicate, or a disjunction in parentheses;
* a predicate is a word, or a word, an operator word and a value.

The reader keeps a stack of operators that wait for their right operand and a stack of finished
operands, so nesting costs no recursion.
-/

namespace FileQuery.Query

inductive Keyword where
  | junction (j : Junction)
  | not
deriving DecidableEq, Repr

/-- The keyword that a word spells, in any case. -/
def keywordOf? (word : String) : Option Keyword :=
  match String.ofList (word.toList.map Char.toUpper) with
  | "AND" => some (.junction .and)
  | "OR" => some (.junction .or)
  | "NOT" => some .not
  | _ => none

/-- The combinator a token stands for where a combinator may stand. -/
def Lexeme.keyword? : Lexeme → Option Keyword
  | .and => some (.junction .and)
  | .or => some (.junction .or)
  | .not => some .not
  | .word text => keywordOf? text
  | _ => none

inductive Waiting where
  | openParen
  | not
  | junction (j : Junction)
deriving DecidableEq, Repr

def Waiting.precedence : Waiting → Nat
  | .openParen => 0
  | .junction .or => 1
  | .junction .and => 2
  | .not => 3

/-- The two stacks, their tops first. -/
structure Stacks where
  waiting : List Waiting
  operands : List RawExpr

namespace Stacks

def empty : Stacks := ⟨[], []⟩

def wait (w : Waiting) (s : Stacks) : Stacks := { s with waiting := w :: s.waiting }

def push (e : RawExpr) (s : Stacks) : Stacks := { s with operands := e :: s.operands }

def isNested (s : Stacks) : Bool := s.waiting.contains .openParen

def applyTop? : Waiting → List RawExpr → Option (List RawExpr)
  | .not, e :: operands => some (.not e :: operands)
  | .junction j, right :: left :: operands => some (RawExpr.combine j left right :: operands)
  | _, _ => none

/-- Applies the operators above the last open parenthesis that bind at least as tightly as
`precedence`; none if an operand is missing. -/
def reduce? (precedence : Nat) (waiting : List Waiting) (operands : List RawExpr) :
    Option Stacks :=
  match waiting with
  | [] => some ⟨[], operands⟩
  | w :: rest =>
    if w = .openParen || w.precedence < precedence then some ⟨w :: rest, operands⟩
    else
      match applyTop? w operands with
      | none => none
      | some operands => reduce? precedence rest operands

end Stacks

/-- Why reading ends without a tree: the query is refused, or a stack has nothing left to take. -/
inductive ReadStop where
  | refused (e : SyntaxError)
  | underflow
deriving DecidableEq, Repr

def operandStart : List Expected := [.selector, .openParen, .bang, .notWord]

def operandEnd (s : Stacks) : List Expected :=
  [.andSign, .orSign, .andWord, .orWord, .endOfInput] ++ if s.isNested then [.closeParen] else []

/-- The value a token stands for after an operator; keywords are plain words there. -/
def Token.value? (t : Token) : Option RawValue :=
  match t.lexeme with
  | .word text => some ⟨text, t.position, .bare⟩
  | .quoted value => some ⟨value, t.position, .quoted⟩
  | .set source items => some ⟨source, t.position, .set items⟩
  | _ => none

inductive Turn where
  | operand
  | operator
deriving DecidableEq, Repr

def refuse (cause : SyntaxCause) (t : Token) (expected : List Expected) :
    Except ReadStop RawExpr :=
  .error (.refused ⟨cause, t.position, expected⟩)

/-- Reads what follows a selector.  The selector stands alone unless a word that is no keyword
comes next; that word is an operator, and a value has to follow it. -/
def readPredicate (selector : String) (position : Nat) :
    List Token → Except ReadStop (RawPredicate × List Token)
  | ⟨.word operator, operatorPosition⟩ :: rest =>
    if (keywordOf? operator).isSome then
      .ok (⟨selector, position, none⟩, ⟨.word operator, operatorPosition⟩ :: rest)
    else
      match rest with
      | [] => .error .underflow
      | v :: rest =>
        match v.value? with
        | none => .error (.refused ⟨.missingValue operator, v.position, [.value]⟩)
        | some value => .ok (⟨selector, position, some ⟨operator, operatorPosition, value⟩⟩, rest)
  | rest => .ok (⟨selector, position, none⟩, rest)

theorem length_readPredicate {selector : String} {position : Nat} {tokens : List Token}
    {r : RawPredicate × List Token} (h : readPredicate selector position tokens = .ok r) :
    r.2.length ≤ tokens.length := by
  unfold readPredicate at h
  split at h
  · split at h
    · cases h
      exact Nat.le_refl _
    · split at h
      · simp at h
      · split at h
        · simp at h
        · cases h
          simp only [List.length_cons]
          omega
  · cases h
    exact Nat.le_refl _

/-- Reads tokens, which end with `finish`, from the given stacks on. -/
def readTokens (turn : Turn) (s : Stacks) (tokens : List Token) : Except ReadStop RawExpr :=
  match turn, tokens with
  | _, [] => .error .underflow
  | .operand, t :: rest =>
    match t.lexeme.keyword? with
    | some .not => readTokens .operand (s.wait .not) rest
    | some (.junction _) => refuse (.unexpectedToken t.lexeme.text) t operandStart
    | none =>
      match t.lexeme with
      | .openParen => readTokens .operand (s.wait .openParen) rest
      | .word selector =>
        match _h : readPredicate selector t.position rest with
        | .error e => .error e
        | .ok (p, rest) => readTokens .operator (s.push (.pred p)) rest
      | .finish => refuse .unexpectedEnd t operandStart
      | lexeme => refuse (.unexpectedToken lexeme.text) t operandStart
  | .operator, t :: rest =>
    match t.lexeme.keyword? with
    | some (.junction j) =>
      match Stacks.reduce? (Waiting.junction j).precedence s.waiting s.operands with
      | none => .error .underflow
      | some s => readTokens .operand (s.wait (.junction j)) rest
    | _ =>
      match t.lexeme with
      | .closeParen =>
        if s.isNested then
          match Stacks.reduce? 0 s.waiting s.operands with
          | some ⟨_ :: waiting, operands⟩ => readTokens .operator ⟨waiting, operands⟩ rest
          | _ => .error .underflow
        else refuse .unbalancedClose t (operandEnd s)
      | .finish =>
        if s.isNested then refuse .unclosedOpen t [.closeParen]
        else
          match Stacks.reduce? 0 s.waiting s.operands with
          | some ⟨[], [e]⟩ => .ok e
          | _ => .error .underflow
      | lexeme => refuse (.unexpectedToken lexeme.text) t (operandEnd s)
termination_by tokens.length
decreasing_by
  all_goals simp_wf
  have := length_readPredicate _h
  simp only at this
  omega

/-- The tree of a token list that ends with `finish`. -/
def RawExpr.ofTokens (tokens : List Token) : Except ReadStop RawExpr :=
  match tokens with
  | ⟨.finish, position⟩ :: _ => .error (.refused ⟨.emptyQuery, position, operandStart⟩)
  | tokens => readTokens .operand .empty tokens

def parseRaw (query : String) : Except SyntaxError RawExpr := do
  let tokens ← tokenize query
  match RawExpr.ofTokens tokens with
  | .ok e => .ok e
  | .error (.refused e) => .error e
  -- the stacks never run out (no query reaches this), so any error would do
  | .error .underflow => .error ⟨.unexpectedEnd, query.length, operandStart⟩

end FileQuery.Query
