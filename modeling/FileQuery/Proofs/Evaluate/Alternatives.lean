import FileQuery.Proofs.Document.Containing
import FileQuery.Proofs.Evaluate.Naive

/-!
# Alternatives

A query that asks for one of several predicates of the same category, which is not the content,
stays as it is until that category is looked at.  Then it is decided: the predicates are gone
through from the left, up to the first that holds.
-/

namespace FileQuery.Query

open Document (anyOk anyOk_cons)

def Expr.anyOf : List Expr → Expr
  | [e] => e
  | es => .or es

/-! ## 1. Folding alternatives -/

section folding

variable {ε : Type} {ans : Predicate → Except ε (Option Bool)} {ps : List Predicate}

def testOf (ans : Predicate → Except ε (Option Bool)) (p : Predicate) : Except ε Bool :=
  (ans p).map (·.getD false)

theorem join_or_cons_false (es : List Expr) :
    Expr.join false (.known false :: es) = Expr.join false es := by
  rw [Expr.join, Expr.join, List.any_cons, List.filter_cons_of_neg (by simp [Expr.known?])]
  rfl

theorem join_or_pred (hne : ps ≠ []) : Expr.join false (ps.map .pred) = .anyOf (ps.map .pred) := by
  have hany : (ps.map Expr.pred).any (·.known? == some !false) = false := by
    simp [Expr.known?]
  have hfilter : (ps.map Expr.pred).filter (·.known?.isNone) = ps.map .pred := by
    rw [List.filter_eq_self]
    intro e he
    obtain ⟨p, -, rfl⟩ := List.mem_map.1 he
    rfl
  rw [Expr.join, hany, if_neg Bool.false_ne_true, hfilter]
  cases ps with
  | nil => exact absurd rfl hne
  | cons p ps => cases ps <;> rfl

theorem reduceOperands_unanswered (h : ∀ p ∈ ps, ans p = .ok none) :
    reduceOperands ans false (ps.map .pred) = .ok (ps.map .pred) := by
  induction ps with
  | nil => rfl
  | cons p ps ih =>
    rw [List.forall_mem_cons] at h
    rw [List.map_cons, reduceOperands, Expr.reduce, h.1, ih h.2]
    rfl

/-- Alternatives that are not answered are left. -/
theorem reduce_anyOf_unanswered (hne : ps ≠ []) (h : ∀ p ∈ ps, ans p = .ok none) :
    (Expr.anyOf (ps.map .pred)).reduce ans = .ok (.anyOf (ps.map .pred)) := by
  have hoperands := reduceOperands_unanswered h
  cases ps with
  | nil => exact absurd rfl hne
  | cons p ps =>
    cases ps with
    | nil =>
      show (Expr.pred p).reduce ans = _
      rw [Expr.reduce, h p List.mem_cons_self]
      rfl
    | cons q ps =>
      show (Expr.or ((p :: q :: ps).map .pred)).reduce ans = _
      rw [Expr.reduce, hoperands]
      exact congrArg Except.ok (join_or_pred hne)

theorem reduceOperands_answered (h : ∀ p ∈ ps, ans p ≠ .ok none) :
    (reduceOperands ans false (ps.map .pred)).map (Expr.join false) =
      (anyOk (testOf ans) ps).map .known := by
  induction ps with
  | nil => rfl
  | cons p ps ih =>
    rw [List.forall_mem_cons] at h
    rw [List.map_cons, reduceOperands, Expr.reduce, anyOk_cons, testOf]
    cases hanswer : ans p with
    | error fault => rfl
    | ok answer =>
      cases answer with
      | none => exact absurd hanswer h.1
      | some b =>
        cases b with
        | true => rfl
        | false =>
          -- the first one does not decide it, and is left out of the join
          show ((reduceOperands ans false (ps.map .pred)).map (Expr.known false :: ·)).map
            (Expr.join false) = (anyOk (testOf ans) ps).map .known
          rw [← ih h.2]
          cases reduceOperands ans false (ps.map .pred) with
          | error fault => rfl
          | ok es => exact congrArg Except.ok (join_or_cons_false es)

/-- Alternatives that are answered are decided by the first that holds. -/
theorem reduce_anyOf_answered (hne : ps ≠ []) (h : ∀ p ∈ ps, ans p ≠ .ok none) :
    (Expr.anyOf (ps.map .pred)).reduce ans = (anyOk (testOf ans) ps).map .known := by
  have hoperands := reduceOperands_answered h
  -- one alternative stands alone and is no join
  cases ps with
  | nil => exact absurd rfl hne
  | cons p ps =>
    cases ps with
    | nil =>
      show (Expr.pred p).reduce ans = _
      rw [Expr.reduce, anyOk_cons, testOf]
      cases hanswer : ans p with
      | error fault => rfl
      | ok answer =>
        cases answer with
        | none => exact absurd hanswer (h p List.mem_cons_self)
        | some b => cases b <;> rfl
    | cons q ps =>
      rw [← hoperands]
      show (Expr.or ((p :: q :: ps).map .pred)).reduce ans = _
      rw [Expr.reduce]
      cases reduceOperands ans false ((p :: q :: ps).map .pred) <;> rfl

end folding

/-! ## 2. Categories -/

variable {setting : Setting} {entity : Entity} {c : Category} {p : Predicate} {ps : List Predicate}

def Category.answer (setting : Setting) (entity : Entity) (c : Category) :
    Predicate → Except EvaluationFault (Option Bool) :=
  match c with
  | .name => nameAnswer entity
  | .metadata => metadataAnswer setting entity
  | .structured => documentAnswer setting entity
  | .content => fun _ => .ok none

theorem categoryReduced_eq (hc : c ≠ .content) (e : Expr) :
    categoryReduced setting entity c e = e.reduce (c.answer setting entity) := by
  cases c with
  | content => exact absurd rfl hc
  | _ => rfl

/-- A category tells nothing of the predicates of others. -/
theorem answer_of_ne (hp : p.WellTyped) (h : p.category ≠ c) :
    c.answer setting entity p = .ok none := by
  cases c with
  | name =>
    show nameAnswer entity p = .ok none
    unfold nameAnswer
    cases hvalue : p.selector.nameValue? entity.path with
    | none => rfl
    | some value => exact absurd (category_of_nameValue hvalue) h
  | metadata => exact if_pos (by simpa using h)
  | structured =>
    show documentAnswer setting entity p = .ok none
    unfold documentAnswer
    split
    · next m hm => exact absurd (category_of_document hp hm) h
    · rfl
  | content => rfl

theorem answer_ne_none (hc : c ≠ .content) (hp : p.WellTyped) (h : p.category = c) :
    c.answer setting entity p ≠ .ok none := by
  cases c with
  | name => exact nameAnswer_ne_none h
  | metadata => exact metadataAnswer_ne_none h
  | structured => exact documentAnswer_ne_none hp h
  | content => exact absurd rfl hc

/-- Categories before their own leave alternatives as they are. -/
theorem decideFrom_anyOf_skip {d : Category} (hd : d ≠ .content) (hdc : d ≠ c) (hne : ps ≠ [])
    (hps : ∀ p ∈ ps, p.WellTyped ∧ p.category = c) (rest : List Category) :
    decideFrom setting entity (d :: rest) (.anyOf (ps.map .pred)) =
      decideFrom setting entity rest (.anyOf (ps.map .pred)) := by
  have hopen : (Expr.anyOf (ps.map .pred)).known? = none := by
    cases ps with
    | nil => exact absurd rfl hne
    | cons p ps => cases ps <;> rfl
  have hunanswered : ∀ p ∈ ps, d.answer setting entity p = .ok none := fun p hp =>
    answer_of_ne (hps p hp).1 fun h => hdc (h.symm.trans (hps p hp).2)
  rw [decideFrom, categoryReduced_eq hd, reduce_anyOf_unanswered hne hunanswered]
  simp only [bind, Except.bind, hopen]

/-- Their own category decides alternatives. -/
theorem decideFrom_anyOf (hc : c ≠ .content) (hne : ps ≠ [])
    (hps : ∀ p ∈ ps, p.WellTyped ∧ p.category = c) (rest : List Category) :
    decideFrom setting entity (c :: rest) (.anyOf (ps.map .pred)) =
      (anyOk (testOf (c.answer setting entity)) ps).map (⟨.ofBool ·, c⟩) := by
  have hanswered : ∀ p ∈ ps, c.answer setting entity p ≠ .ok none := fun p hp =>
    answer_ne_none hc (hps p hp).1 (hps p hp).2
  rw [decideFrom, categoryReduced_eq hc, reduce_anyOf_answered hne hanswered]
  cases anyOk (testOf (c.answer setting entity)) ps <;> rfl

/-- The evaluation of alternatives of one category goes through them up to the first that holds. -/
theorem evaluate_anyOf (hc : c ≠ .content) (hne : ps ≠ [])
    (hps : ∀ p ∈ ps, p.WellTyped ∧ p.category = c) :
    ((Expr.anyOf (ps.map .pred)).evaluate setting entity).1 =
      (anyOk (testOf (c.answer setting entity)) ps).map (⟨.ofBool ·, c⟩) := by
  rw [evaluate_eq_decideFrom, categories]
  cases c with
  | name => exact decideFrom_anyOf hc hne hps _
  | metadata =>
    rw [decideFrom_anyOf_skip (by decide) (by decide) hne hps]
    exact decideFrom_anyOf hc hne hps _
  | structured =>
    rw [decideFrom_anyOf_skip (by decide) (by decide) hne hps,
      decideFrom_anyOf_skip (by decide) (by decide) hne hps]
    exact decideFrom_anyOf hc hne hps _
  | content => exact absurd rfl hc

end FileQuery.Query
