import FileQuery.Proofs.Query.Grammar

/-!
# Reading with two stacks follows the grammar

An operator on the stack and its application are the same thing to the reader unless a tighter
combinator comes next.  So reading a derived operand leaves it on the stack as its flat tree, however
the stacks look below it; and a reader that succeeds has read what the grammar derives.
-/

namespace FileQuery.Query

/-! ## 1. Steps of the reader -/

/-- A step of the reader in wait for an operand, without the facts that make it end. -/
theorem readTokens_operand (s : Stacks) (t : Token) (ts : List Token) :
    readTokens .operand s (t :: ts) =
      match t.lexeme.keyword? with
      | some .not => readTokens .operand (s.wait .not) ts
      | some (.junction _) => refuse (.unexpectedToken t.lexeme.text) t operandStart
      | none =>
        match t.lexeme with
        | .openParen => readTokens .operand (s.wait .openParen) ts
        | .word selector =>
          match readPredicate selector t.position ts with
          | .error e => .error e
          | .ok (p, rest) => readTokens .operator (s.push (.pred p)) rest
        | .finish => refuse .unexpectedEnd t operandStart
        | lexeme => refuse (.unexpectedToken lexeme.text) t operandStart := by
  rw [readTokens]
  cases t.lexeme.keyword? with
  | some keyword => cases keyword <;> rfl
  | none =>
    cases t.lexeme with
    | word selector =>
      dsimp only
      split <;> next h => simp only [h]
    | _ => rfl

section steps

variable {t : Token} {ts : List Token} {s : Stacks}

theorem readTokens_not (h : t.lexeme.keyword? = some .not) :
    readTokens .operand s (t :: ts) = readTokens .operand (s.wait .not) ts := by
  rw [readTokens, h]

theorem readTokens_openParen {position : Nat} :
    readTokens .operand s (⟨.openParen, position⟩ :: ts) =
      readTokens .operand (s.wait .openParen) ts := by
  rw [readTokens]
  rfl

theorem readTokens_word {word : String} {position : Nat} {p : RawPredicate} {rest : List Token}
    (hword : keywordOf? word = none) (hp : readPredicate word position ts = .ok (p, rest)) :
    readTokens .operand s (⟨.word word, position⟩ :: ts) =
      readTokens .operator (s.push (.pred p)) rest := by
  rw [readTokens_operand]
  simp only [Lexeme.keyword?, hword, hp]

theorem readTokens_word_error {word : String} {position : Nat} {e : ReadStop}
    (hword : keywordOf? word = none) (hp : readPredicate word position ts = .error e) :
    readTokens .operand s (⟨.word word, position⟩ :: ts) = .error e := by
  rw [readTokens_operand]
  simp only [Lexeme.keyword?, hword, hp]

theorem readTokens_junction {j : Junction} {s' : Stacks}
    (h : t.lexeme.keyword? = some (.junction j))
    (hs : Stacks.reduce? (Waiting.junction j).precedence s.waiting s.operands = some s') :
    readTokens .operator s (t :: ts) = readTokens .operand (s'.wait (.junction j)) ts := by
  rw [readTokens, h]
  simp only [hs]

theorem readTokens_closeParen {position : Nat} {w : Waiting} {waiting : List Waiting}
    {operands : List RawExpr} (hnested : s.isNested = true)
    (hs : Stacks.reduce? 0 s.waiting s.operands = some ⟨w :: waiting, operands⟩) :
    readTokens .operator s (⟨.closeParen, position⟩ :: ts) =
      readTokens .operator ⟨waiting, operands⟩ ts := by
  rw [readTokens]
  simp only [Lexeme.keyword?, hnested, if_true, hs]

theorem readTokens_closeParen_alone {position : Nat} (hnested : s.isNested = false) :
    readTokens .operator s (⟨.closeParen, position⟩ :: ts) =
      refuse .unbalancedClose ⟨.closeParen, position⟩ (operandEnd s) := by
  rw [readTokens]
  simp only [Lexeme.keyword?, hnested]
  rfl

theorem readTokens_finish_nested {position : Nat} (hnested : s.isNested = true) :
    readTokens .operator s (⟨.finish, position⟩ :: ts) =
      refuse .unclosedOpen ⟨.finish, position⟩ [.closeParen] := by
  rw [readTokens]
  simp only [Lexeme.keyword?, hnested, if_true]

theorem readTokens_finish {position : Nat} {e : RawExpr} (hnested : s.isNested = false)
    (hs : Stacks.reduce? 0 s.waiting s.operands = some ⟨[], [e]⟩) :
    readTokens .operator s (⟨.finish, position⟩ :: ts) = .ok e := by
  rw [readTokens]
  simp only [Lexeme.keyword?, hnested, hs]
  rfl

end steps

/-! ## 2. An operator on top and its application -/

def continuesWith (j : Junction) (ts : List Token) : Bool :=
  (ts.head?.bind fun t => t.lexeme.keyword?) == some (.junction j)

/-- Two pairs of stacks from which the reader goes on alike, unless `j` comes next. -/
theorem readTokens_operator_congr {s s' : Stacks} {ts : List Token}
    (hnested : s.isNested = s'.isNested)
    (hclose : Stacks.reduce? 0 s.waiting s.operands = Stacks.reduce? 0 s'.waiting s'.operands)
    (hjunction : ∀ j, continuesWith j ts = true →
      Stacks.reduce? (Waiting.junction j).precedence s.waiting s.operands =
        Stacks.reduce? (Waiting.junction j).precedence s'.waiting s'.operands) :
    readTokens .operator s ts = readTokens .operator s' ts := by
  cases ts with
  | nil => rw [readTokens, readTokens]
  | cons t ts =>
    have hend : operandEnd s = operandEnd s' := by rw [operandEnd, operandEnd, hnested]
    rw [readTokens, readTokens]
    split
    · next j hj =>
      rw [hjunction j (by simp [continuesWith, hj])]
    · simp only [hnested, hclose, hend]

theorem readTokens_not_top (e : RawExpr) (waiting : List Waiting) (operands : List RawExpr)
    (ts : List Token) :
    readTokens .operator ⟨.not :: waiting, e :: operands⟩ ts =
      readTokens .operator ⟨waiting, .not e :: operands⟩ ts := by
  apply readTokens_operator_congr
  · rfl
  · rw [Stacks.reduce?]
    rfl
  · intro j _
    rw [Stacks.reduce?]
    cases j <;> rfl

theorem readTokens_junction_top (j : Junction) (a b : RawExpr) (waiting : List Waiting)
    (operands : List RawExpr) (ts : List Token)
    (h : j = .and ∨ continuesWith .and ts = false) :
    readTokens .operator ⟨.junction j :: waiting, b :: a :: operands⟩ ts =
      readTokens .operator ⟨waiting, RawExpr.combine j a b :: operands⟩ ts := by
  apply readTokens_operator_congr
  · rfl
  · rw [Stacks.reduce?]
    rfl
  · intro k hk
    rw [Stacks.reduce?]
    -- a disjunction on top is applied late only where a conjunction comes next
    cases j <;> cases k
    · rfl
    · rfl
    · simp [hk] at h
    · rfl

/-! ## 3. Operands of a node, taken in one by one -/

namespace RawExpr

theorem operandsOf_join (j : Junction) (es : List RawExpr) : operandsOf j (join j es) = es := by
  cases j <;> rfl

theorem flat_join (j : Junction) (es : List RawExpr) :
    (join j es).flat = join j (flatOperands j es) := by
  cases j <;> rfl

theorem flatOperands_append (j : Junction) (es fs : List RawExpr) :
    flatOperands j (es ++ fs) = flatOperands j es ++ flatOperands j fs := by
  induction es with
  | nil => rfl
  | cons e es ih => rw [List.cons_append, flatOperands, flatOperands, ih, List.append_assoc]

theorem operandsOf_flat_joined (j : Junction) {es : List RawExpr} (h : es ≠ []) :
    operandsOf j (joined j es).flat = flatOperands j es := by
  match es with
  | [e] => rw [joined, flatOperands, flatOperands, List.append_nil]
  | e :: f :: es => rw [joined, flat_join, operandsOf_join]; simp

/-- Joining one more operand to a flat node makes the flat node with that operand at its end. -/
theorem combine_flat_joined (j : Junction) {es : List RawExpr} (h : es ≠ []) (e : RawExpr) :
    combine j (joined j es).flat e.flat = (joined j (es ++ [e])).flat := by
  rw [combine, operandsOf_flat_joined j h]
  match es with
  | f :: es =>
    have hjoined : joined j (f :: es ++ [e]) = join j (f :: es ++ [e]) := by
      cases es <;> rfl
    rw [hjoined, flat_join, flatOperands_append]
    simp only [flatOperands, List.append_nil]

end RawExpr

def Stacks.within (j : Junction) (done : List RawExpr) (s : Stacks) : Stacks :=
  match done with
  | [] => s
  | _ => ⟨.junction j :: s.waiting, (RawExpr.joined j done).flat :: s.operands⟩

/-- Whether no operator above the last open parenthesis binds as tightly as `j`. -/
def Stacks.isLooser (j : Junction) (s : Stacks) : Bool :=
  match s.waiting with
  | [] => true
  | w :: _ => w = .openParen || w.precedence < (Waiting.junction j).precedence

theorem Stacks.reduce?_of_isLooser {j : Junction} {s : Stacks} (h : s.isLooser j = true)
    (e : RawExpr) :
    Stacks.reduce? (Waiting.junction j).precedence s.waiting (e :: s.operands) = some (s.push e) := by
  obtain ⟨waiting, operands⟩ := s
  cases waiting with
  | nil => rfl
  | cons w waiting =>
    rw [Stacks.reduce?, if_pos (by simpa [Stacks.isLooser] using h)]
    rfl

theorem Stacks.isLooser_within {done : List RawExpr} {s : Stacks} (h : s.isLooser .or = true) :
    (s.within .or done).isLooser .and = true := by
  obtain ⟨waiting, operands⟩ := s
  cases done with
  | cons e done => rfl
  | nil =>
    cases waiting with
    | nil => rfl
    | cons w waiting =>
      cases w with
      | openParen => rfl
      | not => simp [Stacks.isLooser, Waiting.precedence] at h
      | junction j => cases j <;> simp [Stacks.isLooser, Waiting.precedence] at h

/-- An operand is taken into its node as soon as it is read. -/
theorem readTokens_within {j : Junction} {ts : List Token} (done : List RawExpr) (s : Stacks)
    (e : RawExpr) (h : j = .and ∨ continuesWith .and ts = false) :
    readTokens .operator ((s.within j done).push e.flat) ts =
      readTokens .operator (s.push (RawExpr.joined j (done ++ [e])).flat) ts := by
  cases done with
  | nil => rfl
  | cons f done =>
    rw [← RawExpr.combine_flat_joined j (by simp)]
    exact readTokens_junction_top j _ e.flat s.waiting s.operands ts h

/-- Where the combinator of a node comes next, it waits for the next operand. -/
theorem readTokens_more {j : Junction} {t : Token} {ts : List Token} {s : Stacks}
    {done : List RawExpr} (ht : t.lexeme.keyword? = some (.junction j))
    (hs : s.isLooser j = true) (hdone : done ≠ []) :
    readTokens .operator (s.push (RawExpr.joined j done).flat) (t :: ts) =
      readTokens .operand (s.within j done) ts := by
  rw [readTokens_junction ht (Stacks.reduce?_of_isLooser hs _)]
  cases done with
  | nil => exact absurd rfl hdone
  | cons e done => rfl

/-! ## 4. What the grammar derives is read -/

theorem continuesWith_and_of_or {t : Token} (ts : List Token)
    (h : t.lexeme.keyword? = some (.junction .or)) : continuesWith .and (t :: ts) = false := by
  simp [continuesWith, h]

namespace Grammar

theorem Predicate.read {ts rest : List Token} {p : RawPredicate} (h : Predicate ts p rest)
    (s : Stacks) : readTokens .operand s ts = readTokens .operator (s.push (.pred p)) rest := by
  cases h with
  | alone hword hrest =>
    apply readTokens_word hword
    unfold readPredicate
    split
    · next operator _ us =>
      have hplain := hrest _ rfl
      simp only [Token.isPlainWord, Option.isNone_eq_false_iff] at hplain
      rw [if_pos hplain]
    · rfl
  | comparison hword hoperator hvalue =>
    apply readTokens_word hword
    rw [readPredicate, hoperator, if_neg (by simp)]
    simp only [hvalue]

/-- A node inside a node that is being read starts with nothing read. -/
theorem readTokens_within_nil (j : Junction) (s : Stacks) (ts : List Token) :
    readTokens .operand s ts = readTokens .operand (s.within j []) ts := rfl

mutual

theorem Disjuncts.read : ∀ {ts rest : List Token} {es : List RawExpr}, Disjuncts ts es rest →
    continuesWith .and rest = false → ∀ (done : List RawExpr) (s : Stacks),
    s.isLooser .or = true →
    readTokens .operand (s.within .or done) ts =
      readTokens .operator (s.push (RawExpr.joined .or (done ++ es)).flat) rest
  | _, _, _, .last hes, hrest, done, s, hs => by
    rw [readTokens_within_nil .and, hes.read [] (s.within .or done) (Stacks.isLooser_within hs)]
    exact readTokens_within done s _ (.inr hrest)
  | _, _, _, .more hes ht hfs, hrest, done, s, hs => by
    rw [readTokens_within_nil .and, hes.read [] (s.within .or done) (Stacks.isLooser_within hs),
      List.nil_append, readTokens_within done s _ (.inr (continuesWith_and_of_or _ ht)),
      readTokens_more ht hs (by simp), hfs.read hrest _ s hs, List.append_assoc]
    rfl

theorem Conjuncts.read : ∀ {ts rest : List Token} {es : List RawExpr}, Conjuncts ts es rest →
    ∀ (done : List RawExpr) (s : Stacks), s.isLooser .and = true →
    readTokens .operand (s.within .and done) ts =
      readTokens .operator (s.push (RawExpr.joined .and (done ++ es)).flat) rest
  | _, _, _, .last he, done, s, _ => by
    rw [he.read (s.within .and done)]
    exact readTokens_within done s _ (.inl rfl)
  | _, _, _, .more he ht hes, done, s, hs => by
    rw [he.read (s.within .and done), readTokens_within done s _ (.inl rfl),
      readTokens_more ht hs (by simp), hes.read _ s hs, List.append_assoc]
    rfl

theorem Unary.read : ∀ {ts rest : List Token} {e : RawExpr}, Unary ts e rest → ∀ s : Stacks,
    readTokens .operand s ts = readTokens .operator (s.push e.flat) rest
  | _, _, _, .primary he, s => he.read s
  | _, _, _, .not ht he, s => by
    rw [readTokens_not ht, he.read (s.wait .not)]
    exact readTokens_not_top _ s.waiting s.operands _

theorem Primary.read : ∀ {ts rest : List Token} {e : RawExpr}, Primary ts e rest → ∀ s : Stacks,
    readTokens .operand s ts = readTokens .operator (s.push e.flat) rest
  | _, _, _, .predicate hp, s => hp.read s
  | _, _, _, .parens hes, s => by
    -- above the parenthesis the stacks are as good as empty
    have hinside := hes.read rfl [] (s.wait .openParen) rfl
    rw [readTokens_openParen]
    refine hinside.trans (readTokens_closeParen (w := .openParen) ?_ ?_)
    · simp [Stacks.isNested, Stacks.push, Stacks.wait]
    · rw [Stacks.push, Stacks.wait, Stacks.reduce?, if_pos (by simp)]
      rfl

end

/-! ## 5. What is read is derived by the grammar -/

theorem predicate_of_readPredicate {word : String} {position : Nat} {ts rest : List Token}
    {p : RawPredicate} (hword : keywordOf? word = none)
    (h : readPredicate word position ts = .ok (p, rest)) :
    Predicate (⟨.word word, position⟩ :: ts) p rest := by
  unfold readPredicate at h
  split at h
  · next operator place us =>
    split at h
    · -- a keyword behind a word is not its operator, so the word stands alone
      next hoperator =>
      cases h
      refine .alone hword fun t ht => ?_
      cases ht
      simpa [Token.isPlainWord] using hoperator
    · next hoperator =>
      split at h
      · cases h
      · next t us =>
        split at h
        · cases h
        · next value hvalue =>
          cases h
          exact .comparison hword (by simpa using hoperator) hvalue
  · next hts =>
    cases h
    refine .alone hword fun t ht => ?_
    cases ts with
    | nil => cases ht
    | cons u us =>
      cases ht
      obtain ⟨lexeme, place⟩ := t
      cases lexeme with
      | word text => exact absurd rfl (hts text place us)
      | _ => rfl

theorem Predicate.ended {ts rest : List Token} {p : RawPredicate} (h : Predicate ts p rest)
    (hts : Ended ts) : Ended rest ∧ rest.length < ts.length := by
  cases h with
  | alone =>
    cases hts with
    | cons _ hrest => exact ⟨hrest, by simp⟩
  | comparison _ _ hvalue =>
    cases hts with
    | cons _ hts =>
      cases hts with
      | cons _ hts =>
        cases hts with
        | finish => cases hvalue
        | cons _ hrest => exact ⟨hrest, by simp only [List.length_cons]; omega⟩

theorem exists_readPredicate {word : String} {position : Nat} {ts : List Token} {s : Stacks}
    {r : RawExpr} (hword : keywordOf? word = none)
    (h : readTokens .operand s (⟨.word word, position⟩ :: ts) = .ok r) :
    ∃ p rest, readPredicate word position ts = .ok (p, rest) := by
  cases hp : readPredicate word position ts with
  | ok read => exact ⟨read.1, read.2, rfl⟩
  | error fault =>
    rw [readTokens_word_error hword hp] at h
    cases h

theorem exists_of_continuesWith {j : Junction} {ts : List Token} (h : continuesWith j ts = true) :
    ∃ t us, ts = t :: us ∧ t.lexeme.keyword? = some (.junction j) := by
  cases ts with
  | nil => cases h
  | cons t us => exact ⟨t, us, rfl, by simpa [continuesWith] using h⟩

/-- After an operand, a reader that succeeds meets a combinator, the end of parentheses or the end. -/
theorem operator_cases {s : Stacks} {ts : List Token} {e : RawExpr} (hts : Ended ts)
    (h : readTokens .operator s ts = .ok e) :
    (∃ t us j, ts = t :: us ∧ t.lexeme.keyword? = some (.junction j) ∧ Ended us) ∨
    (∃ stop us, ts = ⟨.closeParen, stop⟩ :: us ∧ s.isNested = true ∧ Ended us) ∨
    (∃ stop, ts = [⟨.finish, stop⟩] ∧ s.isNested = false) := by
  cases hts with
  | finish stop =>
    refine .inr (.inr ⟨stop, rfl, ?_⟩)
    cases hs : s.isNested with
    | false => rfl
    | true =>
      rw [readTokens_finish_nested hs] at h
      cases h
  | @cons t us ht hus =>
    cases hk : t.lexeme.keyword? with
    | some k =>
      cases k with
      | junction j => exact .inl ⟨t, us, j, rfl, hk, hus⟩
      | not =>
        obtain ⟨lexeme, position⟩ := t
        cases lexeme <;> simp_all [readTokens, Lexeme.keyword?, refuse]
    | none =>
      obtain ⟨lexeme, position⟩ := t
      cases lexeme with
      | closeParen =>
        refine .inr (.inl ⟨position, us, rfl, ?_, hus⟩)
        cases hs : s.isNested with
        | true => rfl
        | false =>
          rw [readTokens_closeParen_alone hs] at h
          cases h
      | finish => exact absurd rfl ht
      | _ => simp_all [readTokens, Lexeme.keyword?, refuse]

mutual

theorem exists_unary {ts : List Token} (hts : Ended ts) {s : Stacks} {r : RawExpr}
    (h : readTokens .operand s ts = .ok r) :
    ∃ e rest, Unary ts e rest ∧ Ended rest ∧ rest.length < ts.length ∧
      readTokens .operator (s.push e.flat) rest = .ok r := by
  cases hts with
  | finish stop => simp [readTokens, Lexeme.keyword?, refuse] at h
  | @cons t us ht hus =>
    cases hk : t.lexeme.keyword? with
    | some k =>
      cases k with
      | junction j => simp [readTokens, hk, refuse] at h
      | not =>
        rw [readTokens_not hk] at h
        obtain ⟨e, rest, he, hrest, hlen, hr⟩ := exists_unary hus h
        refine ⟨.not e, rest, .not hk he, hrest, Nat.lt_succ_of_lt hlen, ?_⟩
        rw [← hr]
        exact (readTokens_not_top _ s.waiting s.operands rest).symm
    | none =>
      obtain ⟨lexeme, position⟩ := t
      cases lexeme with
      | word word =>
        obtain ⟨p, rest, hp⟩ := exists_readPredicate hk h
        rw [readTokens_word hk hp] at h
        have hpredicate := predicate_of_readPredicate hk hp
        have hrest := hpredicate.ended (.cons ht hus)
        exact ⟨.pred p, rest, .primary (.predicate hpredicate), hrest.1, hrest.2, h⟩
      | openParen =>
        rw [readTokens_openParen] at h
        -- inside the parentheses there is a row of operands, and only they can end it
        obtain ⟨es, rest, hes, hrest, hlen, hand, hor, hr⟩ := exists_disjuncts hus rfl [] h
        rcases operator_cases hrest hr with ⟨t, vs, j, rfl, hj, -⟩ | ⟨stop, vs, rfl, -, hvs⟩ |
          ⟨stop, rfl, hnested⟩
        · cases j <;> simp [continuesWith, hj] at hand hor
        · refine ⟨_, vs, .primary (.parens hes), hvs, ?_, ?_⟩
          · simp only [List.length_cons] at hlen ⊢
            omega
          · rw [← hr]
            refine (readTokens_closeParen (w := .openParen) ?_ ?_).symm
            · simp [Stacks.isNested, Stacks.push]
            · rw [Stacks.push, Stacks.reduce?, if_pos (by simp)]
              rfl
        · simp [Stacks.isNested, Stacks.push] at hnested
      | finish => exact absurd rfl ht
      | _ => simp_all [readTokens, Lexeme.keyword?, refuse]
termination_by (ts.length, 0)

theorem exists_conjuncts {ts : List Token} (hts : Ended ts) {s : Stacks} {r : RawExpr}
    (hs : s.isLooser .and = true) (done : List RawExpr)
    (h : readTokens .operand (s.within .and done) ts = .ok r) :
    ∃ es rest, Conjuncts ts es rest ∧ Ended rest ∧ rest.length < ts.length ∧
      continuesWith .and rest = false ∧
      readTokens .operator (s.push (RawExpr.joined .and (done ++ es)).flat) rest = .ok r := by
  -- on the number of tokens left: one operand, and more of them if the combinator follows
  obtain ⟨e, rest, he, hrest, hlen, hr⟩ := exists_unary hts h
  rw [readTokens_within done s e (.inl rfl)] at hr
  cases hand : continuesWith .and rest with
  | false => exact ⟨[e], rest, .last he, hrest, hlen, hand, hr⟩
  | true =>
    obtain ⟨t, us, rfl, ht⟩ := exists_of_continuesWith hand
    rw [readTokens_more ht hs (by simp)] at hr
    have hshorter : us.length < ts.length := Nat.lt_of_succ_lt hlen
    obtain ⟨es, vs, hes, hvs, hlen', hand', hr'⟩ :=
      exists_conjuncts (hrest.tail_of_keyword ht) hs (done ++ [e]) hr
    refine ⟨e :: es, vs, .more he ht hes, hvs, by omega, hand', ?_⟩
    rw [List.append_assoc] at hr'
    exact hr'
termination_by (ts.length, 1)

theorem exists_disjuncts {ts : List Token} (hts : Ended ts) {s : Stacks} {r : RawExpr}
    (hs : s.isLooser .or = true) (done : List RawExpr)
    (h : readTokens .operand (s.within .or done) ts = .ok r) :
    ∃ es rest, Disjuncts ts es rest ∧ Ended rest ∧ rest.length < ts.length ∧
      continuesWith .and rest = false ∧ continuesWith .or rest = false ∧
      readTokens .operator (s.push (RawExpr.joined .or (done ++ es)).flat) rest = .ok r := by
  -- a conjunction is read to its end, where no further combinator of its kind comes
  obtain ⟨es, rest, hes, hrest, hlen, hand, hr⟩ :=
    exists_conjuncts hts (Stacks.isLooser_within hs) [] h
  rw [List.nil_append, readTokens_within done s _ (.inr hand)] at hr
  cases hor : continuesWith .or rest with
  | false => exact ⟨_, rest, .last hes, hrest, hlen, hand, hor, hr⟩
  | true =>
    obtain ⟨t, us, rfl, ht⟩ := exists_of_continuesWith hor
    rw [readTokens_more ht hs (by simp)] at hr
    have hshorter : us.length < ts.length := Nat.lt_of_succ_lt hlen
    obtain ⟨fs, vs, hfs, hvs, hlen', hand', hor', hr'⟩ :=
      exists_disjuncts (hrest.tail_of_keyword ht) hs (done ++ [.joined .and es]) hr
    refine ⟨_, vs, .more hes ht hfs, hvs, by omega, hand', hor', ?_⟩
    rw [List.append_assoc] at hr'
    exact hr'
termination_by (ts.length, 2)

end

end Grammar

end FileQuery.Query
