import FileQuery.Proofs.Evaluate.Fold

/-!
# Folding in stages

A tree that is folded with some values, and what is left of it with others, is the tree folded once
with all of these values, part by part.  A join does not show when its operands were decided: those
that change nothing may have been left out before, and one that decides it may have done so before the
others were looked at.
-/

namespace FileQuery.Query

namespace Expr

def foldWith (w : Predicate → Option Bool) (e : Expr) : Expr := Id.run (e.fold (m := Id) w)

variable {w : Predicate → Option Bool} {isAnd : Bool} {es : List Expr}

/-! ## 1. Joins -/

/-- An operand that decides a join does so alone. -/
theorem join_of_decides (h : ∃ e ∈ es, e.known? = some !isAnd) : join isAnd es = .known !isAnd := by
  rw [join, if_pos]
  simpa using h

/-- Operands that are decided and change nothing do not show in a join. -/
theorem join_filter (isAnd : Bool) (es : List Expr) :
    join isAnd (es.filter (·.known? != some isAnd)) = join isAnd es := by
  have hany : (es.filter (·.known? != some isAnd)).any (·.known? == some !isAnd) =
      es.any (·.known? == some !isAnd) := by
    rw [List.any_filter]
    congr 1
    funext e
    rcases e.known? with _ | b
    · rfl
    · cases b <;> cases isAnd <;> rfl
  have hopen : (es.filter (·.known? != some isAnd)).filter (·.known?.isNone) =
      es.filter (·.known?.isNone) := by
    rw [List.filter_filter]
    refine List.filter_congr fun e _ => ?_
    cases e.known? <;> rfl
  rw [join, join, hany, hopen]

theorem join_singleton (isAnd : Bool) (e : Expr) : join isAnd [e] = e := by
  cases e with
  | known b => cases isAnd <;> cases b <;> rfl
  | _ => rfl

/-! ## 2. Folding with values, part by part -/

theorem foldWith_eq_reduce (w : Predicate → Option Bool) (e : Expr) :
    e.foldWith w = Id.run (e.reduce (m := Id) w) := by
  rw [foldWith, fold_eq_reduce]

theorem foldWith_pred (w : Predicate → Option Bool) (p : Predicate) :
    (Expr.pred p).foldWith w = ((w p).map .known).getD (.pred p) := by
  rw [foldWith_eq_reduce, reduce]
  simp only [Id.run_bind]
  cases w p <;> rfl

theorem foldWith_known (w : Predicate → Option Bool) (b : Bool) :
    (Expr.known b).foldWith w = .known b := by
  rw [foldWith_eq_reduce, reduce]
  rfl

theorem foldWith_not (w : Predicate → Option Bool) (e : Expr) :
    (Expr.not e).foldWith w = (e.foldWith w).negate := by
  rw [foldWith_eq_reduce, foldWith_eq_reduce, reduce]
  rfl

/-- The operands that are not looked at do not show in the join. -/
theorem join_reduceOperands (w : Predicate → Option Bool) (isAnd : Bool) (es : List Expr) :
    join isAnd (Id.run (reduceOperands (m := Id) w isAnd es)) =
      join isAnd (es.map (foldWith w)) := by
  -- all operands are looked at, or one of them decides the join
  have hcases : Id.run (reduceOperands (m := Id) w isAnd es) = es.map (foldWith w) ∨
      (∃ e ∈ Id.run (reduceOperands (m := Id) w isAnd es), e.known? = some !isAnd) ∧
        ∃ e ∈ es.map (foldWith w), e.known? = some !isAnd := by
    induction es with
    | nil => exact .inl rfl
    | cons e es ih =>
      have hcons : Id.run (reduceOperands (m := Id) w isAnd (e :: es)) =
          if (e.foldWith w).known? == some !isAnd then [e.foldWith w]
          else e.foldWith w :: Id.run (reduceOperands (m := Id) w isAnd es) := by
        rw [foldWith_eq_reduce, reduceOperands]
        simp only [Id.run_bind]
        split <;> rfl
      rw [hcons, List.map_cons]
      split
      · next hdecides =>
        rw [beq_iff_eq] at hdecides
        exact .inr ⟨⟨_, List.mem_cons_self, hdecides⟩, ⟨_, List.mem_cons_self, hdecides⟩⟩
      · rcases ih with hsame | ⟨⟨f, hf, hfknown⟩, g, hg, hgknown⟩
        · exact .inl (congrArg _ hsame)
        · exact .inr ⟨⟨f, List.mem_cons_of_mem _ hf, hfknown⟩, g, List.mem_cons_of_mem _ hg, hgknown⟩
  rcases hcases with hsame | ⟨hreduced, hmap⟩
  · rw [hsame]
  · rw [join_of_decides hreduced, join_of_decides hmap]

theorem foldWith_joined (w : Predicate → Option Bool) (isAnd : Bool) (es : List Expr) :
    (joined isAnd es).foldWith w = join isAnd (es.map (foldWith w)) := by
  rw [← join_reduceOperands, foldWith_eq_reduce]
  cases isAnd <;> rfl

/-! ## 3. Two stages -/

theorem foldWith_negate (w : Predicate → Option Bool) (e : Expr) :
    e.negate.foldWith w = (e.foldWith w).negate := by
  cases e with
  | known b => exact (foldWith_known w _).trans (congrArg negate (foldWith_known w b)).symm
  | _ => exact foldWith_not w _

/-- To fold what a join was made of is to fold the join. -/
theorem foldWith_join (w : Predicate → Option Bool) (isAnd : Bool) (es : List Expr) :
    (join isAnd es).foldWith w = join isAnd (es.map (foldWith w)) := by
  by_cases hdecides : ∃ e ∈ es, e.known? = some !isAnd
  · obtain ⟨e, he, hknown⟩ := hdecides
    have hfolded : e.foldWith w = e := by rw [eq_known_of_known? hknown, foldWith_known]
    rw [join_of_decides ⟨e, he, hknown⟩, foldWith_known, join_of_decides]
    exact ⟨e, List.mem_map.2 ⟨e, he, hfolded⟩, hknown⟩
  · -- the operands that are not open change nothing, before and after
    have hunits : ∀ e ∈ es, e.known?.isNone = false → (e.foldWith w).known? = some isAnd := by
      intro e he hsome
      obtain ⟨b, hb⟩ := Option.isSome_iff_exists.1 (by simpa using hsome)
      rw [eq_known_of_known? hb, foldWith_known, known?]
      have hne : b ≠ !isAnd := fun heq => hdecides ⟨e, he, heq ▸ hb⟩
      cases b <;> cases isAnd <;> simp_all
    have hopen : join isAnd ((es.filter (·.known?.isNone)).map (foldWith w)) =
        join isAnd (es.map (foldWith w)) := by
      rw [← join_filter, ← join_filter isAnd (es.map _), List.filter_map, List.filter_map,
        List.filter_filter]
      congr 2
      refine List.filter_congr fun e he => ?_
      cases hnone : e.known?.isNone with
      | true => exact Bool.and_true _
      | false => simp [hunits e he hnone]
    rw [← hopen, join, if_neg (by simpa using hdecides)]
    split
    · next hnil => rw [hnil, foldWith_known]; rfl
    · next e hone => rw [hone, List.map_singleton, join_singleton]
    · next es' _ => rw [foldWith_joined]

theorem foldWith_foldWith_joined {r₁ r₂ r : Predicate → Option Bool} (isAnd : Bool)
    (h : ∀ e ∈ es, (e.foldWith r₁).foldWith r₂ = e.foldWith r) :
    ((joined isAnd es).foldWith r₁).foldWith r₂ = (joined isAnd es).foldWith r := by
  rw [foldWith_joined, foldWith_join, List.map_map, foldWith_joined]
  exact congrArg _ (List.map_congr_left h)

/-- What is left of a tree is folded as the tree is, with the values of both stages. -/
theorem foldWith_foldWith (r₁ r₂ : Predicate → Option Bool) : ∀ e : Expr,
    (e.foldWith r₁).foldWith r₂ = e.foldWith fun p => (r₁ p).or (r₂ p)
  | .known b => by rw [foldWith_known, foldWith_known, foldWith_known]
  | .pred p => by
    rw [foldWith_pred, foldWith_pred]
    cases r₁ p with
    | some b => exact foldWith_known r₂ b
    | none => exact foldWith_pred r₂ p
  | .not e => by rw [foldWith_not, foldWith_negate, foldWith_foldWith r₁ r₂ e, foldWith_not]
  | .and _ => foldWith_foldWith_joined true fun e _ => foldWith_foldWith r₁ r₂ e
  | .or _ => foldWith_foldWith_joined false fun e _ => foldWith_foldWith r₁ r₂ e

/-! ## 4. Any number of stages -/

/-- Folding in two stages is folding once, where the second stage is asked for what the first leaves
open; so folding again with the same values changes nothing, and any number of stages are one. -/
theorem foldWith_stages (e : Expr) :
    (∀ r₁ r₂, (e.foldWith r₁).foldWith r₂ = e.foldWith fun p => (r₁ p).or (r₂ p)) ∧
      (∀ r, (e.foldWith r).foldWith r = e.foldWith r) ∧
      ∀ r rs, (r :: rs).foldl (fun e r => e.foldWith r) e =
        e.foldWith fun p => (r :: rs).findSome? (· p) := by
  refine ⟨fun r₁ r₂ => foldWith_foldWith r₁ r₂ e, fun r => ?_, fun r rs => ?_⟩
  · rw [foldWith_foldWith]
    simp only [Option.or_self]
  · induction rs generalizing r with
    | nil => simp
    | cons r' rs ih =>
      -- the first two stages are one
      have hmerged := ih fun p => (r p).or (r' p)
      rw [List.foldl_cons, ← foldWith_foldWith] at hmerged
      rw [List.foldl_cons, List.foldl_cons, hmerged]
      congr 1
      funext p
      simp only [List.findSome?_cons]
      cases r p <;> rfl

end Expr

end FileQuery.Query
