import FileQuery.Proofs.Query.TwoStacks
import FileQuery.Proofs.Result
import FileQuery.Query.Check

/-!
# The shape of trees that are read

Every conjunction and disjunction of a tree that is read has at least two operands and none of its own
kind.  The check of predicates keeps that shape, so typed trees have it too.  What the predicates of a
tree have in common is carried along.
-/

namespace FileQuery.Query

/-! ## 1. Normal trees -/

def RawExpr.junction? : RawExpr → Option Junction
  | .and _ => some .and
  | .or _ => some .or
  | _ => none

def Expr.junction? : Expr → Option Junction
  | .and _ => some .and
  | .or _ => some .or
  | _ => none

/-- Untyped trees whose nodes have at least two operands and none of their own kind, and whose
predicates all satisfy `P`. -/
inductive RawExpr.Normal (P : RawPredicate → Prop) : RawExpr → Prop
  | pred {p : RawPredicate} : P p → Normal P (.pred p)
  | not {e : RawExpr} : Normal P e → Normal P (.not e)
  | and {es : List RawExpr} : 2 ≤ es.length → (∀ e ∈ es, Normal P e) →
      (∀ e ∈ es, e.junction? ≠ some .and) → Normal P (.and es)
  | or {es : List RawExpr} : 2 ≤ es.length → (∀ e ∈ es, Normal P e) →
      (∀ e ∈ es, e.junction? ≠ some .or) → Normal P (.or es)

/-- Trees whose nodes have at least two operands and none of their own kind, in which nothing is
decided yet, and whose predicates all satisfy `P`. -/
inductive Expr.Normal (P : Predicate → Prop) : Expr → Prop
  | pred {p : Predicate} : P p → Normal P (.pred p)
  | not {e : Expr} : Normal P e → Normal P (.not e)
  | and {es : List Expr} : 2 ≤ es.length → (∀ e ∈ es, Normal P e) →
      (∀ e ∈ es, e.junction? ≠ some .and) → Normal P (.and es)
  | or {es : List Expr} : 2 ≤ es.length → (∀ e ∈ es, Normal P e) →
      (∀ e ∈ es, e.junction? ≠ some .or) → Normal P (.or es)

/-! ## 2. Flat trees are normal -/

namespace RawExpr

variable {P : RawPredicate → Prop}

theorem Normal.join {j : Junction} {es : List RawExpr} (hlength : 2 ≤ es.length)
    (hes : ∀ e ∈ es, Normal P e ∧ e.junction? ≠ some j) : Normal P (RawExpr.join j es) := by
  cases j with
  | and => exact .and hlength (fun e he => (hes e he).1) fun e he => (hes e he).2
  | or => exact .or hlength (fun e he => (hes e he).1) fun e he => (hes e he).2

theorem operandsOf_of_ne {j : Junction} {e : RawExpr} (h : e.junction? ≠ some j) :
    operandsOf j e = [e] := by
  cases e with
  | pred | not => cases j <;> rfl
  | and | or =>
    cases j with
    | and => first | rfl | exact absurd rfl h
    | or => first | rfl | exact absurd rfl h

theorem Normal.operandsOf {e : RawExpr} (h : Normal P e) (j : Junction) :
    1 ≤ (operandsOf j e).length ∧
      ∀ x ∈ RawExpr.operandsOf j e, Normal P x ∧ x.junction? ≠ some j := by
  by_cases hj : e.junction? = some j
  · cases h with
    | pred | not => cases hj
    | and hlength hes hne =>
      cases hj
      exact ⟨Nat.le_of_succ_le hlength, fun x hx => ⟨hes x hx, hne x hx⟩⟩
    | or hlength hes hne =>
      cases hj
      exact ⟨Nat.le_of_succ_le hlength, fun x hx => ⟨hes x hx, hne x hx⟩⟩
  -- a node of another kind is one operand
  · rw [operandsOf_of_ne hj]
    refine ⟨Nat.le_refl 1, fun x hx => ?_⟩
    rw [List.mem_singleton] at hx
    exact hx ▸ ⟨h, hj⟩

theorem normal_flatOperands {j : Junction} {es : List RawExpr} (hes : ∀ e ∈ es, Normal P e.flat) :
    es.length ≤ (flatOperands j es).length ∧
      ∀ x ∈ flatOperands j es, Normal P x ∧ x.junction? ≠ some j := by
  induction es with
  | nil => simp [flatOperands]
  | cons e es ih =>
    rw [List.forall_mem_cons] at hes
    obtain ⟨hlength, hoperands⟩ := hes.1.operandsOf j
    obtain ⟨hlengths, hrest⟩ := ih hes.2
    rw [flatOperands, List.length_append, List.length_cons]
    refine ⟨by omega, fun x hx => ?_⟩
    rcases List.mem_append.1 hx with hx | hx
    · exact hoperands x hx
    · exact hrest x hx

/-- One operand keeps its shape, and several make up a node in which no node of its kind is left. -/
theorem normal_joined {j : Junction} {es : List RawExpr} (hne : es ≠ [])
    (hes : ∀ e ∈ es, Normal P e.flat) : Normal P (joined j es).flat := by
  match es with
  | [e] => exact hes e List.mem_cons_self
  | e :: f :: es =>
    -- each of the operands contributes at least one
    obtain ⟨hlength, hoperands⟩ := normal_flatOperands (j := j) hes
    rw [joined, flat_join]
    · refine .join ?_ hoperands
      simp only [List.length_cons] at hlength
      omega
    · simp

end RawExpr

/-! ## 3. What the grammar derives -/

def RawPredicate.IsFrom (ts : List Token) (p : RawPredicate) : Prop :=
  ∀ c, p.comparison = some c → ∃ t ∈ ts, t.value? = some c.value

namespace Grammar

theorem Predicate.isFrom {ts rest all : List Token} {p : RawPredicate} (h : Predicate ts p rest)
    (hall : ts ⊆ all) : p.IsFrom all ∧ rest ⊆ all := by
  cases h with
  | alone =>
    rw [List.cons_subset] at hall
    refine ⟨fun c hc => ?_, hall.2⟩
    cases hc
  | comparison _ _ hvalue =>
    rw [List.cons_subset, List.cons_subset, List.cons_subset] at hall
    refine ⟨fun c hc => ?_, hall.2.2.2⟩
    cases hc
    exact ⟨_, hall.2.2.1, hvalue⟩

mutual

theorem Disjuncts.normal {all : List Token} : ∀ {ts rest : List Token} {es : List RawExpr},
    Disjuncts ts es rest → ts ⊆ all →
    es ≠ [] ∧ (∀ e ∈ es, e.flat.Normal (RawPredicate.IsFrom all)) ∧ rest ⊆ all
  | _, _, _, .last hes, hall => by
    obtain ⟨hne, hnormal, hrest⟩ := hes.normal hall
    refine ⟨by simp, ?_, hrest⟩
    rw [List.forall_mem_singleton]
    exact RawExpr.normal_joined hne hnormal
  | _, _, _, .more hes _ hfs, hall => by
    obtain ⟨hne, hnormal, hus⟩ := hes.normal hall
    obtain ⟨-, hnormals, hrest⟩ := hfs.normal (List.cons_subset.1 hus).2
    exact ⟨by simp, List.forall_mem_cons.2 ⟨RawExpr.normal_joined hne hnormal, hnormals⟩, hrest⟩

theorem Conjuncts.normal {all : List Token} : ∀ {ts rest : List Token} {es : List RawExpr},
    Conjuncts ts es rest → ts ⊆ all →
    es ≠ [] ∧ (∀ e ∈ es, e.flat.Normal (RawPredicate.IsFrom all)) ∧ rest ⊆ all
  | _, _, _, .last he, hall => by
    obtain ⟨hnormal, hrest⟩ := he.normal hall
    exact ⟨by simp, List.forall_mem_singleton.2 hnormal, hrest⟩
  | _, _, _, .more he _ hes, hall => by
    obtain ⟨hnormal, hus⟩ := he.normal hall
    obtain ⟨-, hnormals, hrest⟩ := hes.normal (List.cons_subset.1 hus).2
    exact ⟨by simp, List.forall_mem_cons.2 ⟨hnormal, hnormals⟩, hrest⟩

theorem Unary.normal {all : List Token} : ∀ {ts rest : List Token} {e : RawExpr},
    Unary ts e rest → ts ⊆ all → e.flat.Normal (RawPredicate.IsFrom all) ∧ rest ⊆ all
  | _, _, _, .primary he, hall => he.normal hall
  | _, _, _, .not _ he, hall => by
    obtain ⟨hnormal, hrest⟩ := he.normal (List.cons_subset.1 hall).2
    exact ⟨.not hnormal, hrest⟩

theorem Primary.normal {all : List Token} : ∀ {ts rest : List Token} {e : RawExpr},
    Primary ts e rest → ts ⊆ all → e.flat.Normal (RawPredicate.IsFrom all) ∧ rest ⊆ all
  | _, _, _, .predicate hp, hall => by
    obtain ⟨hfrom, hrest⟩ := hp.isFrom hall
    exact ⟨.pred hfrom, hrest⟩
  | _, _, _, .parens hes, hall => by
    obtain ⟨hne, hnormal, hrest⟩ := hes.normal (List.cons_subset.1 hall).2
    exact ⟨RawExpr.normal_joined hne hnormal, (List.cons_subset.1 hrest).2⟩

end

/-- A tree that the grammar derives is flat after reading, and its values are those of its tokens. -/
theorem Derives.normal {ts : List Token} {e : RawExpr} (h : Derives ts e) :
    e.flat.Normal (RawPredicate.IsFrom ts) := by
  obtain ⟨es, stop, hes, rfl⟩ := h
  obtain ⟨hne, hnormal, -⟩ := hes.normal (List.Subset.refl ts)
  exact RawExpr.normal_joined hne hnormal

end Grammar

/-! ## 4. The check keeps the shape -/

section check

variable {ε : Type} {test : RawPredicate → Except ε Predicate}

theorem junction?_of_check {raw : RawExpr} {e : Expr} (h : raw.check test = .ok e) :
    raw.junction? = e.junction? := by
  cases raw with
  | _ =>
    obtain ⟨x, -, rfl⟩ := map_eq_ok.1 h
    rfl

theorem checkAll_cons_ok {raw : RawExpr} {raws : List RawExpr} {es : List Expr} :
    checkAll test (raw :: raws) = .ok es ↔
      ∃ e fs, raw.check test = .ok e ∧ checkAll test raws = .ok fs ∧ es = e :: fs := by
  rw [checkAll]
  constructor
  · intro h
    split at h
    · cases h
    · next e he =>
      split at h
      · cases h
      · next fs hfs =>
        cases h
        exact ⟨e, fs, he, hfs, rfl⟩
  · rintro ⟨e, fs, he, hfs, rfl⟩
    rw [he, hfs]

theorem exists_of_checkAll {raws : List RawExpr} {es : List Expr} (h : checkAll test raws = .ok es) :
    es.length = raws.length ∧ ∀ e ∈ es, ∃ raw ∈ raws, raw.check test = .ok e := by
  induction raws generalizing es with
  | nil =>
    cases h
    simp
  | cons raw raws ih =>
    obtain ⟨e, fs, he, hfs, rfl⟩ := checkAll_cons_ok.1 h
    obtain ⟨hlength, hmem⟩ := ih hfs
    refine ⟨congrArg (· + 1) hlength, List.forall_mem_cons.2 ⟨⟨raw, List.mem_cons_self, he⟩, ?_⟩⟩
    intro f hf
    obtain ⟨raw', hraw', hcheck⟩ := hmem f hf
    exact ⟨raw', List.mem_cons_of_mem _ hraw', hcheck⟩

/-- The operands of a checked node are normal and of another kind where those of the node were. -/
theorem normal_of_checkAll {P : Predicate → Prop} {j : Junction} {raws : List RawExpr}
    {es : List Expr} (h : checkAll test raws = .ok es)
    (hraws : ∀ raw ∈ raws, ∀ e, raw.check test = .ok e → e.Normal P)
    (hne : ∀ raw ∈ raws, raw.junction? ≠ some j) :
    es.length = raws.length ∧ (∀ e ∈ es, e.Normal P) ∧ ∀ e ∈ es, e.junction? ≠ some j := by
  obtain ⟨hlength, hmem⟩ := exists_of_checkAll h
  refine ⟨hlength, fun e he => ?_, fun e he => ?_⟩
  · obtain ⟨raw, hraw, hcheck⟩ := hmem e he
    exact hraws raw hraw e hcheck
  · obtain ⟨raw, hraw, hcheck⟩ := hmem e he
    rw [← junction?_of_check hcheck]
    exact hne raw hraw

theorem RawExpr.Normal.check {P : RawPredicate → Prop} {Q : Predicate → Prop}
    (hpred : ∀ raw p, P raw → test raw = .ok p → Q p) {raw : RawExpr} (hraw : raw.Normal P) :
    ∀ {e : Expr}, raw.check test = .ok e → e.Normal Q := by
  induction hraw with
  | @pred p hp =>
    intro e h
    obtain ⟨q, hq, rfl⟩ := map_eq_ok.1 h
    exact .pred (hpred p q hp hq)
  | not _ ih =>
    intro e h
    obtain ⟨f, hf, rfl⟩ := map_eq_ok.1 h
    exact .not (ih hf)
  | and hlength _ hne ih =>
    intro e h
    obtain ⟨es, hes, rfl⟩ := map_eq_ok.1 h
    obtain ⟨hlength', hnormal, hne'⟩ := normal_of_checkAll hes (fun raw hraw e he => ih raw hraw he) hne
    exact .and (hlength' ▸ hlength) hnormal hne'
  | or hlength _ hne ih =>
    intro e h
    obtain ⟨es, hes, rfl⟩ := map_eq_ok.1 h
    obtain ⟨hlength', hnormal, hne'⟩ := normal_of_checkAll hes (fun raw hraw e he => ih raw hraw he) hne
    exact .or (hlength' ▸ hlength) hnormal hne'

end check

end FileQuery.Query
