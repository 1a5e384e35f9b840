import FileQuery.Evaluate.Fold

/-!
# Truth values of trees

A tree has a truth value when all its predicates have one.  When some of them have none the tree can
still be decided, and then it has the same truth value however the others turn out.  Joining and
negating folded trees keeps the value in both senses.
-/

namespace FileQuery.Query

/-! ## 1. Two values -/

mutual
/-- The truth value of a tree whose predicates have the values `v`. -/
def Expr.holds (v : Predicate → Bool) : Expr → Bool
  | .pred p => v p
  | .known b => b
  | .not e => !e.holds v
  | .and es => allHold v es
  | .or es => someHolds v es
def allHold (v : Predicate → Bool) : List Expr → Bool
  | [] => true
  | e :: es => e.holds v && allHold v es
def someHolds (v : Predicate → Bool) : List Expr → Bool
  | [] => false
  | e :: es => e.holds v || someHolds v es
end

/-! ## 2. Three values -/

/-- Joins two values of which each may be missing; the one that decides the join does so alone. -/
def joinValues (isAnd : Bool) : Option Bool → Option Bool → Option Bool
  | some a, some b => some (if isAnd then a && b else a || b)
  | some a, none => if a == !isAnd then some a else none
  | none, some b => if b == !isAnd then some b else none
  | none, none => none

@[simp] theorem joinValues_unit_left (isAnd : Bool) (x : Option Bool) :
    joinValues isAnd (some isAnd) x = x := by
  rcases isAnd with _ | _ <;> rcases x with _ | _ | _ <;> rfl

@[simp] theorem joinValues_unit_right (isAnd : Bool) (x : Option Bool) :
    joinValues isAnd x (some isAnd) = x := by
  rcases isAnd with _ | _ <;> rcases x with _ | _ | _ <;> rfl

@[simp] theorem joinValues_decided_left (isAnd : Bool) (x : Option Bool) :
    joinValues isAnd (some !isAnd) x = some !isAnd := by
  rcases isAnd with _ | _ <;> rcases x with _ | _ | _ <;> rfl

@[simp] theorem joinValues_decided_right (isAnd : Bool) (x : Option Bool) :
    joinValues isAnd x (some !isAnd) = some !isAnd := by
  rcases isAnd with _ | _ <;> rcases x with _ | _ | _ <;> rfl

/-- What decides a join alone still does when the other value is there. -/
theorem joinValues_mono {isAnd b : Bool} {x x' y y' : Option Bool}
    (hx : ∀ a, x = some a → x' = some a) (hy : ∀ a, y = some a → y' = some a)
    (h : joinValues isAnd x y = some b) : joinValues isAnd x' y' = some b := by
  -- a value that is missing does not matter where the other one decides
  cases x with
  | some a =>
    rw [hx a rfl]
    cases y with
    | some c =>
      rw [hy c rfl]
      exact h
    | none =>
      rw [joinValues] at h
      split at h
      · next hdecides =>
        rw [← h, beq_iff_eq.1 hdecides, joinValues_decided_left]
      · cases h
  | none =>
    cases y with
    | some c =>
      rw [hy c rfl]
      rw [joinValues] at h
      split at h
      · next hdecides =>
        rw [← h, beq_iff_eq.1 hdecides, joinValues_decided_right]
      · cases h
    | none => cases h

mutual
/-- The truth value of a tree as far as the values `w` of its predicates decide it. -/
def Expr.kleene (w : Predicate → Option Bool) : Expr → Option Bool
  | .pred p => w p
  | .known b => some b
  | .not e => (e.kleene w).map (!·)
  | .and es => kleeneOf w true es
  | .or es => kleeneOf w false es
def kleeneOf (w : Predicate → Option Bool) (isAnd : Bool) : List Expr → Option Bool
  | [] => some isAnd
  | e :: es => joinValues isAnd (e.kleene w) (kleeneOf w isAnd es)
end

mutual
/-- Where no value is missing, the two kinds of truth values are the same. -/
theorem Expr.kleene_some (v : Predicate → Bool) :
    ∀ e : Expr, e.kleene (fun p => some (v p)) = some (e.holds v)
  | .pred _ => rfl
  | .known _ => rfl
  | .not e => by rw [Expr.kleene, e.kleene_some v]; rfl
  | .and es => kleeneOf_true_some v es
  | .or es => kleeneOf_false_some v es

theorem kleeneOf_true_some (v : Predicate → Bool) :
    ∀ es : List Expr, kleeneOf (fun p => some (v p)) true es = some (allHold v es)
  | [] => rfl
  | e :: es => by rw [kleeneOf, e.kleene_some v, kleeneOf_true_some v es]; rfl

theorem kleeneOf_false_some (v : Predicate → Bool) :
    ∀ es : List Expr, kleeneOf (fun p => some (v p)) false es = some (someHolds v es)
  | [] => rfl
  | e :: es => by rw [kleeneOf, e.kleene_some v, kleeneOf_false_some v es]; rfl
end

section missing

variable {w w' : Predicate → Option Bool}

mutual
/-- More values of predicates do not change a value that a tree has already. -/
theorem Expr.kleene_mono (h : ∀ p b, w p = some b → w' p = some b) :
    ∀ (e : Expr) (b : Bool), e.kleene w = some b → e.kleene w' = some b
  | .pred p, b, hb => h p b hb
  | .known _, _, hb => hb
  | .not e, b, hb => by
    rw [Expr.kleene, Option.map_eq_some_iff] at hb ⊢
    obtain ⟨a, ha, hab⟩ := hb
    exact ⟨a, e.kleene_mono h a ha, hab⟩
  | .and es, b, hb => kleeneOf_mono h true es b hb
  | .or es, b, hb => kleeneOf_mono h false es b hb

theorem kleeneOf_mono (h : ∀ p b, w p = some b → w' p = some b) (isAnd : Bool) :
    ∀ (es : List Expr) (b : Bool), kleeneOf w isAnd es = some b → kleeneOf w' isAnd es = some b
  | [], _, hb => hb
  | e :: es, _, hb => joinValues_mono (e.kleene_mono h) (kleeneOf_mono h isAnd es) hb
end

theorem kleeneOf_none {isAnd : Bool} {es : List Expr} (hne : es ≠ [])
    (h : ∀ e ∈ es, e.kleene w = none) : kleeneOf w isAnd es = none := by
  induction es with
  | nil => exact absurd rfl hne
  | cons e es ih =>
    rw [List.forall_mem_cons] at h
    rw [kleeneOf, h.1]
    by_cases hes : es = []
    · rw [hes, kleeneOf, joinValues_unit_right]
    · rw [ih hes h.2]
      rfl

end missing

/-! ## 3. Joining folded trees -/

namespace Expr

variable (w : Predicate → Option Bool)

theorem eq_known_of_known? {e : Expr} {b : Bool} (h : e.known? = some b) : e = .known b := by
  cases e <;> cases h
  rfl

theorem kleene_of_known {e : Expr} {b : Bool} (h : e.known? = some b) : e.kleene w = some b := by
  rw [eq_known_of_known? h]
  rfl

theorem kleene_negate (e : Expr) : e.negate.kleene w = (e.kleene w).map (!·) := by
  cases e <;> rfl

theorem kleene_joined (isAnd : Bool) (es : List Expr) :
    (joined isAnd es).kleene w = kleeneOf w isAnd es := by
  cases isAnd <;> rfl

theorem kleeneOf_of_decided {isAnd : Bool} {es : List Expr}
    (h : ∃ e ∈ es, e.known? = some !isAnd) : kleeneOf w isAnd es = some !isAnd := by
  obtain ⟨e, he, hknown⟩ := h
  induction es with
  | nil => cases he
  | cons f es ih =>
    rw [kleeneOf]
    cases he with
    | head => rw [kleene_of_known w hknown, joinValues_decided_left]
    | tail _ he => rw [ih he, joinValues_decided_right]

/-- Operands that are decided and change nothing can be left out. -/
theorem kleeneOf_filter {isAnd : Bool} {es : List Expr}
    (h : ∀ e ∈ es, e.known? ≠ some !isAnd) :
    kleeneOf w isAnd (es.filter (·.known?.isNone)) = kleeneOf w isAnd es := by
  induction es with
  | nil => rfl
  | cons e es ih =>
    have hes := ih fun f hf => h f (List.mem_cons_of_mem e hf)
    rw [kleeneOf, ← hes]
    cases hknown : e.known? with
    | none => rw [List.filter_cons_of_pos (by simp [hknown]), kleeneOf]
    | some b =>
      -- an operand that is decided and does not decide the join is its unit
      have hb : b = isAnd := by
        have := h e List.mem_cons_self
        rw [hknown] at this
        cases b <;> cases isAnd <;> simp_all
      rw [List.filter_cons_of_neg (by simp [hknown]), kleene_of_known w hknown, hb,
        joinValues_unit_left]

theorem kleene_join (isAnd : Bool) (es : List Expr) :
    (join isAnd es).kleene w = kleeneOf w isAnd es := by
  rw [join]
  split
  · next h =>
    rw [kleeneOf_of_decided w (by simpa using h)]
    rfl
  · next h =>
    rw [← kleeneOf_filter w (by simpa using h)]
    split
    -- no operand is left, or one that stands for the join, or several
    · next hnil => rw [hnil]; rfl
    · next e hone => rw [hone, kleeneOf, kleeneOf, joinValues_unit_right]
    · rw [kleene_joined]

end Expr

end FileQuery.Query
