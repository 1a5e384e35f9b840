import FileQuery.Proofs.Evaluate.Fold

/-!
# Which predicates a fold asks

What a resolver is asked for decides what is read of an entity.  Folding with a stack asks what plain
recursion asks: the predicates from left to right, but none in the operands of a join after the first
operand that decides it, at any depth.  `Visits` says so of a tree without mentioning a resolver, and
whatever a resolver answers, also if it answers a predicate differently when it is asked again, the
fold is the only visit with these answers.
-/

namespace FileQuery.Query

/-! ## 1. Visits -/

abbrev Transcript := List (Predicate × Option Bool)

mutual
inductive Visits : Expr → Transcript → Expr → Prop
  | answered {p : Predicate} {b : Bool} : Visits (.pred p) [(p, some b)] (.known b)
  | unanswered {p : Predicate} : Visits (.pred p) [(p, none)] (.pred p)
  | known {b : Bool} : Visits (.known b) [] (.known b)
  | not {e e' : Expr} {t : Transcript} : Visits e t e' → Visits (.not e) t e'.negate
  | and {es es' : List Expr} {t : Transcript} :
      VisitsOperands true es t es' → Visits (.and es) t (.join true es')
  | or {es es' : List Expr} {t : Transcript} :
      VisitsOperands false es t es' → Visits (.or es) t (.join false es')
/-- A visit of the operands of a join: it goes from one to the next unless that one decides the join,
and ends with the first that does. -/
inductive VisitsOperands : Bool → List Expr → Transcript → List Expr → Prop
  | none {isAnd : Bool} : VisitsOperands isAnd [] [] []
  | decides {isAnd : Bool} {e e' : Expr} {es : List Expr} {t : Transcript} :
      Visits e t e' → e'.known? = some !isAnd → VisitsOperands isAnd (e :: es) t [e']
  | next {isAnd : Bool} {e e' : Expr} {es es' : List Expr} {t t' : Transcript} :
      Visits e t e' → e'.known? ≠ some !isAnd → VisitsOperands isAnd es t' es' →
      VisitsOperands isAnd (e :: es) (t ++ t') (e' :: es')
end

/-! ## 2. Resolvers -/

def scripted (answer : Transcript → Predicate → Option Bool) (p : Predicate) :
    StateM Transcript (Option Bool) := do
  let before ← get
  set (before ++ [(p, answer before p)])
  return answer before p

/-- The answers in a transcript are those of a resolver that was asked for `before` already. -/
def IsAnsweredBy (answer : Transcript → Predicate → Option Bool) (before : Transcript) :
    Transcript → Prop
  | [] => True
  | (p, a) :: rest => answer before p = a ∧ IsAnsweredBy answer (before ++ [(p, a)]) rest

variable {answer : Transcript → Predicate → Option Bool}

theorem isAnsweredBy_append {before t t' : Transcript} :
    IsAnsweredBy answer before (t ++ t') ↔
      IsAnsweredBy answer before t ∧ IsAnsweredBy answer (before ++ t) t' := by
  induction t generalizing before with
  | nil => simp [IsAnsweredBy]
  | cons entry t ih =>
    rw [List.cons_append, IsAnsweredBy, IsAnsweredBy, ih, and_assoc, List.append_assoc]
    rfl

theorem run_scripted (p : Predicate) (before : Transcript) :
    (scripted answer p).run before = (answer before p, before ++ [(p, answer before p)]) := rfl

/-! ## 3. The fold is a visit -/

mutual
/-- With the answers of a resolver a tree can be visited. -/
theorem exists_visits (answer : Transcript → Predicate → Option Bool) :
    ∀ (e : Expr) (before : Transcript), ∃ t e', Visits e t e' ∧ IsAnsweredBy answer before t
  | .pred p, before => by
    cases h : answer before p with
    | some b => exact ⟨_, _, .answered, h, trivial⟩
    | none => exact ⟨_, _, .unanswered, h, trivial⟩
  | .known b, before => ⟨_, _, .known, trivial⟩
  | .not e, before => by
    obtain ⟨t, e', hvisits, ht⟩ := exists_visits answer e before
    exact ⟨t, _, .not hvisits, ht⟩
  | .and es, before => by
    obtain ⟨t, es', hvisits, ht⟩ := exists_visitsOperands answer true es before
    exact ⟨t, _, .and hvisits, ht⟩
  | .or es, before => by
    obtain ⟨t, es', hvisits, ht⟩ := exists_visitsOperands answer false es before
    exact ⟨t, _, .or hvisits, ht⟩

theorem exists_visitsOperands (answer : Transcript → Predicate → Option Bool) (isAnd : Bool) :
    ∀ (es : List Expr) (before : Transcript), ∃ t es',
      VisitsOperands isAnd es t es' ∧ IsAnsweredBy answer before t
  | [], before => ⟨_, _, .none, trivial⟩
  | e :: es, before => by
    obtain ⟨t, e', hvisits, ht⟩ := exists_visits answer e before
    by_cases hdecides : e'.known? = some !isAnd
    · exact ⟨t, _, .decides hvisits hdecides, ht⟩
    · -- the other operands are asked after the first
      obtain ⟨t', es', hrest, ht'⟩ := exists_visitsOperands answer isAnd es (before ++ t)
      exact ⟨t ++ t', _, .next hvisits hdecides hrest, isAnsweredBy_append.2 ⟨ht, ht'⟩⟩
end

mutual
/-- A visit with the answers of a resolver is what plain recursion does with it. -/
theorem reduce_of_visits : ∀ {e e' : Expr} {t : Transcript}, Visits e t e' →
    ∀ {before : Transcript}, IsAnsweredBy answer before t →
    (e.reduce (scripted answer)).run before = (e', before ++ t)
  | _, _, _, .answered, before, h => by
    -- the script has the answer for what is visited next
    rw [Expr.reduce, StateT.run_bind, run_scripted, h.1]
    rfl
  | _, _, _, .unanswered, before, h => by
    rw [Expr.reduce, StateT.run_bind, run_scripted, h.1]
    rfl
  | _, _, _, .known, before, _ => by
    rw [Expr.reduce, List.append_nil]
    rfl
  | _, _, _, .not hvisits, before, h => by
    rw [Expr.reduce, StateT.run_bind, reduce_of_visits hvisits h]
    rfl
  | _, _, _, .and hvisits, before, h => by
    rw [Expr.reduce, StateT.run_bind, reduceOperands_of_visits hvisits h]
    rfl
  | _, _, _, .or hvisits, before, h => by
    rw [Expr.reduce, StateT.run_bind, reduceOperands_of_visits hvisits h]
    rfl

theorem reduceOperands_of_visits : ∀ {isAnd : Bool} {es es' : List Expr} {t : Transcript},
    VisitsOperands isAnd es t es' → ∀ {before : Transcript}, IsAnsweredBy answer before t →
    (reduceOperands (scripted answer) isAnd es).run before = (es', before ++ t)
  | _, _, _, _, .none, before, _ => by
    rw [reduceOperands, List.append_nil]
    rfl
  | _, _, _, _, .decides hvisits hdecides, before, h => by
    rw [reduceOperands, StateT.run_bind, reduce_of_visits hvisits h]
    show StateT.run (if _ then _ else _) _ = _
    rw [if_pos (beq_iff_eq.2 hdecides)]
    rfl
  | _, _, _, _, .next hvisits hopen hrest, before, h => by
    rw [isAnsweredBy_append] at h
    rw [reduceOperands, StateT.run_bind, reduce_of_visits hvisits h.1]
    show StateT.run (if _ then _ else _) _ = _
    rw [if_neg (by simpa using hopen), StateT.run_bind, reduceOperands_of_visits hrest h.2,
      List.append_assoc]
    rfl
end

/-- A fold with a stack has the result and the effects of plain recursion, whatever the resolver does;
and what is asked, with which outcome, is the one visit of the tree with the answers of the
resolver. -/
theorem fold_isVisit (e : Expr) :
    (∀ (m : Type → Type) [Monad m] [LawfulMonad m] (resolve : Predicate → m (Option Bool)),
      e.fold resolve = e.reduce resolve) ∧
      ∀ (answer : Transcript → Predicate → Option Bool) (e' : Expr) (t : Transcript),
        (e.fold (scripted answer)).run [] = (e', t) ↔ Visits e t e' ∧ IsAnsweredBy answer [] t := by
  refine ⟨fun m _ _ resolve => e.fold_eq_reduce resolve, fun answer e' t => ?_⟩
  rw [Expr.fold_eq_reduce]
  constructor
  · intro hrun
    obtain ⟨t', e'', hvisits, ht⟩ := exists_visits answer e []
    have hrun' := reduce_of_visits hvisits ht
    rw [hrun] at hrun'
    cases hrun'
    exact ⟨hvisits, ht⟩
  · rintro ⟨hvisits, ht⟩
    exact reduce_of_visits hvisits ht

/-- A resolver that knows nothing at first and finds everything true after that: of two predicates that
stand twice, one is asked again, and the other not at all. -/
theorem fold_isVisit_asked_again :
    let a : Predicate := ⟨.name, some .eq, .text "a"⟩
    let b : Predicate := ⟨.name, some .eq, .text "b"⟩
    let c : Predicate := ⟨.name, some .eq, .text "c"⟩
    let e : Expr := .and [.or [.pred a, .pred b, .pred c], .not (.pred a), .pred c]
    let answer : Transcript → Predicate → Option Bool := fun before _ =>
      if before.isEmpty then none else some true
    e.fold (scripted answer) = e.reduce (scripted answer) ∧
      (e.fold (scripted answer)).run [] =
        (.known false, [(a, none), (b, some true), (a, some true)]) := by
  intro a b c e answer
  have hor : Visits (.or [.pred a, .pred b, .pred c]) [(a, none), (b, some true)] (.known true) :=
    .or (.next .unanswered nofun (.decides .answered rfl))
  have hand : Visits e [(a, none), (b, some true), (a, some true)] (.known false) :=
    .and (.next hor nofun (.decides (.not .answered) rfl))
  exact ⟨(fold_isVisit e).1 _ _, ((fold_isVisit e).2 answer _ _).2 ⟨hand, rfl, rfl, rfl, trivial⟩⟩

end FileQuery.Query
