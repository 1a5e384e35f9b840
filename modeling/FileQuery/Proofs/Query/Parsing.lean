import FileQuery.Proofs.Query.TwoStacks

/-!
# The reader accepts the grammar and nothing else

On the tokens of a query the reader never finds a stack empty: after an operand there is one operand
more than there are combinators waiting for two.  With that and with the two directions of
`TwoStacks`, a query is read exactly when the grammar derives its tokens, and the tree is the derived
one with the operands of nested nodes of one kind taken together.
-/

namespace FileQuery.Query

/-! ## 1. The tokens of a query end with the end -/

theorem scanToken_ne_finish {position : Nat} {c : Char} {rest : List Char} {r : Scanned Lexeme}
    (h : scanToken position c rest = .ok r) : r.value ≠ .finish := by
  unfold scanToken at h
  split at h
  · cases h; simp
  · cases h; simp
  · cases h; simp
  · cases h; simp
  · split at h
    · cases h; simp
    · split at h
      · cases hq : scanQuoted c position [] (position + 1) rest with
        | error e => rw [hq] at h; cases h
        | ok q => rw [hq] at h; cases h; simp
      · split at h
        · cases hi : scanItems [] (position + 1) rest with
          | error e => rw [hi] at h; cases h
          | ok items => rw [hi] at h; cases h; simp
        · cases hw : scanWord (position + 1) rest with
          | error e => rw [hw] at h; cases h
          | ok w => rw [hw] at h; cases h; simp

theorem ended_of_scanTokens {position : Nat} {s : List Char} {ts : List Token}
    (h : scanTokens position s = .ok ts) : Ended ts := by
  fun_induction scanTokens position s generalizing ts with
  | case1 => cases h; exact .finish _
  | case2 => cases h
  | case3 => cases h
  | case4 position s start c rest hs t ht tokens hts ih =>
    cases h
    exact .cons (scanToken_ne_finish ht) (ih hts)

theorem ended_of_tokenize {query : String} {ts : List Token} (h : tokenize query = .ok ts) :
    Ended ts :=
  ended_of_scanTokens h

/-! ## 2. No stack runs out -/

def Stacks.junctions (waiting : List Waiting) : Nat :=
  waiting.countP fun w => w matches .junction _

/-- The stacks after an operand: one operand more than the waiting combinators have on their left. -/
def Stacks.Balanced (s : Stacks) : Prop :=
  s.operands.length = Stacks.junctions s.waiting + 1

/-- With an operand on top the operators can be applied, down to any level, and what is left is
balanced again.  Down to the lowest level, nothing or an open parenthesis is left on top. -/
theorem Stacks.Balanced.reduce? {s : Stacks} (h : s.Balanced) (precedence : Nat) :
    ∃ s', Stacks.reduce? precedence s.waiting s.operands = some s' ∧ s'.Balanced ∧
      s'.isNested = s.isNested ∧
      (precedence = 0 → s'.waiting = [] ∨ ∃ waiting, s'.waiting = .openParen :: waiting) := by
  -- on the operator stack: each operator that is applied leaves one operand more than it needs
  obtain ⟨waiting, operands⟩ := s
  induction waiting generalizing operands with
  | nil => exact ⟨⟨[], operands⟩, rfl, h, rfl, fun _ => .inl rfl⟩
  | cons w waiting ih =>
    rw [Stacks.reduce?]
    split
    · next hstop =>
      refine ⟨_, rfl, h, rfl, fun hzero => .inr ⟨waiting, ?_⟩⟩
      simpa [hzero] using hstop
    · next hgo =>
      cases w with
      | openParen => simp at hgo
      | not =>
        match operands, h with
        | e :: operands, h =>
          obtain ⟨s', hs', hbalanced, hnested, hend⟩ := ih (.not e :: operands) h
          exact ⟨s', hs', hbalanced, hnested, hend⟩
      | junction j =>
        match operands, h with
        | [_], h => simp [Stacks.Balanced, Stacks.junctions] at h
        | right :: left :: operands, h =>
          obtain ⟨s', hs', hbalanced, hnested, hend⟩ := ih (RawExpr.combine j left right :: operands)
            (by simpa [Stacks.Balanced, Stacks.junctions] using h)
          exact ⟨s', hs', hbalanced, hnested, hend⟩

theorem readPredicate_ne_underflow {word : String} {position : Nat} {ts : List Token}
    (hts : Ended ts) : readPredicate word position ts ≠ .error .underflow := by
  unfold readPredicate
  split
  · split
    · simp
    · split
      · cases hts with
        | cons _ hts => cases hts
      · split <;> simp
  · simp

/-- How many operands there are when the reader waits for an operand, and when for an operator. -/
def Stacks.Ready (turn : Turn) (s : Stacks) : Prop :=
  match turn with
  | .operand => s.operands.length = Stacks.junctions s.waiting
  | .operator => s.Balanced

theorem Stacks.Ready.wait_junction {s : Stacks} (h : s.Balanced) (j : Junction) :
    (s.wait (.junction j)).Ready .operand := by
  simpa [Stacks.Ready, Stacks.Balanced, Stacks.junctions, Stacks.wait] using h

theorem Stacks.Ready.push {s : Stacks} (h : s.Ready .operand) (e : RawExpr) :
    (s.push e).Ready .operator := by
  simpa [Stacks.Ready, Stacks.Balanced, Stacks.push] using h

/-- Down to an open parenthesis, which is there. -/
theorem Stacks.Balanced.reduce?_nested {s : Stacks} (h : s.Balanced) (hnested : s.isNested = true) :
    ∃ waiting operands, Stacks.reduce? 0 s.waiting s.operands =
      some ⟨.openParen :: waiting, operands⟩ ∧ Stacks.Balanced ⟨waiting, operands⟩ := by
  obtain ⟨⟨waiting', operands⟩, hs', hbalanced, hnested', hend⟩ := h.reduce? 0
  rcases hend rfl with hnil | ⟨waiting, rfl⟩
  · rw [hnested] at hnested'
    cases hnil
    cases hnested'
  · exact ⟨waiting, operands, hs', hbalanced⟩

/-- Down to the end, where one operand is left. -/
theorem Stacks.Balanced.reduce?_flat {s : Stacks} (h : s.Balanced) (hnested : s.isNested = false) :
    ∃ e, Stacks.reduce? 0 s.waiting s.operands = some ⟨[], [e]⟩ := by
  obtain ⟨⟨waiting', operands⟩, hs', hbalanced, hnested', hend⟩ := h.reduce? 0
  rcases hend rfl with hnil | ⟨waiting, rfl⟩
  · cases hnil
    obtain ⟨e, rfl⟩ := List.length_eq_one_iff.1 hbalanced
    exact ⟨e, hs'⟩
  · rw [hnested] at hnested'
    simp [Stacks.isNested] at hnested'

theorem readTokens_ne_underflow {turn : Turn} {s : Stacks} {ts : List Token} (hts : Ended ts)
    (h : s.Ready turn) : readTokens turn s ts ≠ .error .underflow := by
  -- along the reader; `Ready` counts the operands for both turns
  fun_induction readTokens turn s ts with
  | case1 => cases hts
  | case2 s t rest hk ih => exact ih (hts.tail_of_keyword hk) h
  | case4 s t rest hk hopen ih =>
    cases hts with
    | finish => cases hopen
    | cons _ hrest => exact ih hrest h
  | case5 s t rest hk selector hword e he =>
    cases hts with
    | finish => cases hword
    | cons _ hrest =>
      rintro ⟨⟩
      exact readPredicate_ne_underflow hrest he
  | case6 s t rest hk selector hword p rest' hp ih =>
    obtain ⟨lexeme, position⟩ := t
    cases hword
    have hrest := (Grammar.predicate_of_readPredicate hk hp).ended hts
    exact ih hrest.1 (h.push _)
  | case9 s t rest j hk hnone =>
    obtain ⟨s', hs', -⟩ := h.reduce? (Waiting.junction j).precedence
    rw [hnone] at hs'
    cases hs'
  | case10 s t rest j hk s₁ hsome ih =>
    obtain ⟨s', hs', hbalanced, -⟩ := h.reduce? (Waiting.junction j).precedence
    rw [hsome] at hs'
    cases hs'
    exact ih (hts.tail_of_keyword hk) (.wait_junction hbalanced j)
  | case11 s t rest hclose hnested top waiting operands hs hk ih =>
    obtain ⟨waiting', operands', hs', hbalanced⟩ := h.reduce?_nested hnested
    rw [hs] at hs'
    cases hs'
    cases hts with
    | finish => cases hclose
    | cons _ hrest => exact ih hrest hbalanced
  | case12 s t rest hclose hnested hk hs =>
    obtain ⟨waiting', operands', hs', -⟩ := h.reduce?_nested hnested
    exact absurd hs' (hs _ _ _)
  | case16 s t rest hfinish hnested hk hs =>
    obtain ⟨e, he⟩ := h.reduce?_flat (by simpa using hnested)
    exact absurd he (hs e)
  | case3 | case7 | case8 | case13 | case14 | case15 | case17 => simp [refuse]

/-! ## 3. Both directions together -/

theorem ofTokens_eq_readTokens {ts : List Token} {e : RawExpr} :
    RawExpr.ofTokens ts = .ok e ↔ readTokens .operand .empty ts = .ok e := by
  unfold RawExpr.ofTokens
  split
  · next position rest =>
    rw [readTokens]
    simp [Lexeme.keyword?, refuse]
  · rfl

theorem ofTokens_ne_underflow {ts : List Token} (hts : Ended ts) :
    RawExpr.ofTokens ts ≠ .error .underflow := by
  unfold RawExpr.ofTokens
  split
  · simp
  · exact readTokens_ne_underflow hts rfl

theorem ofTokens_ok_iff {ts : List Token} (hts : Ended ts) (e : RawExpr) :
    RawExpr.ofTokens ts = .ok e ↔ ∃ plain, Grammar.Derives ts plain ∧ e = plain.flat := by
  rw [ofTokens_eq_readTokens]
  constructor
  · intro h
    obtain ⟨es, rest, hes, hrest, -, hand, hor, hr⟩ :=
      Grammar.exists_disjuncts hts rfl [] (s := .empty) h
    rcases Grammar.operator_cases hrest hr with ⟨t, us, j, rfl, hj, -⟩ | ⟨stop, us, rfl, hnested, -⟩ |
      ⟨stop, rfl, hnested⟩
    · cases j <;> simp [continuesWith, hj] at hand hor
    · cases hnested
    · refine ⟨.joined .or es, ⟨es, stop, hes, rfl⟩, ?_⟩
      rw [readTokens_finish hnested rfl] at hr
      exact (Except.ok.inj hr).symm
  · rintro ⟨plain, ⟨es, stop, hes, rfl⟩, rfl⟩
    have hread := hes.read rfl [] .empty rfl
    rw [← Grammar.readTokens_within_nil] at hread
    rw [hread]
    exact readTokens_finish rfl rfl

theorem parseRaw_of_tokenize {query : String} {ts : List Token} (h : tokenize query = .ok ts)
    (e : RawExpr) : parseRaw query = .ok e ↔ RawExpr.ofTokens ts = .ok e := by
  rw [parseRaw, h]
  simp only [bind, Except.bind]
  split <;> simp_all

/-- The reader accepts the queries whose tokens the grammar derives, and reads from each the derived
tree, flat; and it never takes from an empty stack. -/
theorem parseRaw_ok_iff_derivable {query : String} {ts : List Token}
    (h : tokenize query = .ok ts) :
    (∀ e, parseRaw query = .ok e ↔ ∃ plain, Grammar.Derives ts plain ∧ e = plain.flat) ∧
      RawExpr.ofTokens ts ≠ .error .underflow :=
  ⟨fun e => (parseRaw_of_tokenize h e).trans (ofTokens_ok_iff (ended_of_tokenize h) e),
    ofTokens_ne_underflow (ended_of_tokenize h)⟩

/-- A query whose keywords are words: what its tokens derive is what is read. -/
theorem parseRaw_words :
    tokenize "a OR Not b" = .ok [⟨.word "a", 0⟩, ⟨.word "OR", 2⟩, ⟨.word "Not", 5⟩,
      ⟨.word "b", 9⟩, ⟨.finish, 10⟩] ∧
    parseRaw "a OR Not b" = .ok (.or [.pred ⟨"a", 0, none⟩, .not (.pred ⟨"b", 9, none⟩)]) := by
  have htokens : tokenize "a OR Not b" = .ok [⟨.word "a", 0⟩, ⟨.word "OR", 2⟩, ⟨.word "Not", 5⟩,
      ⟨.word "b", 9⟩, ⟨.finish, 10⟩] := by
    with_unfolding_all rfl
  have hleft : Grammar.Conjuncts [⟨.word "a", 0⟩, ⟨.word "OR", 2⟩, ⟨.word "Not", 5⟩,
      ⟨.word "b", 9⟩, ⟨.finish, 10⟩] [.pred ⟨"a", 0, none⟩]
      [⟨.word "OR", 2⟩, ⟨.word "Not", 5⟩, ⟨.word "b", 9⟩, ⟨.finish, 10⟩] :=
    .last (.primary (.predicate (.alone (by decide) (by rintro t ⟨⟩; decide))))
  have hright : Grammar.Conjuncts [⟨.word "Not", 5⟩, ⟨.word "b", 9⟩, ⟨.finish, 10⟩]
      [.not (.pred ⟨"b", 9, none⟩)] [⟨.finish, 10⟩] :=
    .last (.not (by decide) (.primary (.predicate
      (.alone (by decide) (by rintro t ⟨⟩; decide)))))
  have hquery := Grammar.Disjuncts.more hleft (by decide) (.last hright)
  exact ⟨htokens, ((parseRaw_ok_iff_derivable htokens).1 _).2 ⟨_, ⟨_, 10, hquery, rfl⟩, rfl⟩⟩

end FileQuery.Query
