import Mathlib.Data.List.Forall2
import Mathlib.Tactic.Basic

/-!
# Steps that can fail

When steps in a row succeed, each of them has.  When they fail, the first that fails tells how.
-/

namespace FileQuery

variable {ε α β : Type}

theorem bind_eq_ok {x : Except ε α} {f : α → Except ε β} {b : β} :
    x >>= f = .ok b ↔ ∃ a, x = .ok a ∧ f a = .ok b := by
  cases x with
  | error e =>
    constructor
    · intro h
      cases h
    · rintro ⟨a, h, -⟩
      cases h
  | ok a =>
    constructor
    · intro h
      exact ⟨a, rfl, h⟩
    · rintro ⟨a', h, hf⟩
      cases h
      exact hf

theorem bind_eq_error {x : Except ε α} {f : α → Except ε β} {e : ε} :
    x >>= f = .error e ↔ x = .error e ∨ ∃ a, x = .ok a ∧ f a = .error e := by
  cases x with
  | error e' =>
    show Except.error e' = _ ↔ _
    constructor
    · intro h
      cases h
      exact .inl rfl
    · rintro (h | ⟨a, h, -⟩)
      · cases h
        rfl
      · cases h
  | ok a =>
    show f a = _ ↔ _
    constructor
    · intro h
      exact .inr ⟨a, rfl, h⟩
    · rintro (h | ⟨a', h, hf⟩)
      · cases h
      · cases h
        exact hf

theorem bind_pure_ok (x : Except ε α) : x >>= Except.ok = x := by
  cases x <;> rfl

theorem map_eq_ok {x : Except ε α} {f : α → β} {b : β} :
    x.map f = .ok b ↔ ∃ a, x = .ok a ∧ f a = b := by
  cases x with
  | error e => simp [Except.map]
  | ok a => simp [Except.map]

theorem map_eq_error {x : Except ε α} {f : α → β} {e : ε} : x.map f = .error e ↔ x = .error e := by
  cases x with
  | error e' => simp [Except.map]
  | ok a => simp [Except.map]

theorem mapError_eq_error {ε' : Type} {x : Except ε α} {f : ε → ε'} {e' : ε'} :
    x.mapError f = .error e' ↔ ∃ e, x = .error e ∧ f e = e' := by
  cases x with
  | error e =>
    constructor
    · intro h
      cases h
      exact ⟨e, rfl, rfl⟩
    · rintro ⟨_, h, rfl⟩
      cases h
      rfl
  | ok a =>
    constructor
    · intro h
      cases h
    · rintro ⟨_, h, -⟩
      cases h

theorem mapError_eq_ok {ε' : Type} {x : Except ε α} {f : ε → ε'} {a : α} :
    x.mapError f = .ok a ↔ x = .ok a := by
  cases x with
  | error e =>
    constructor
    · intro h
      cases h
    · intro h
      cases h
  | ok a' =>
    constructor
    · intro h
      cases h
      rfl
    · intro h
      cases h
      rfl

theorem mapM_cons_ok {f : α → Except ε β} {x : α} {xs : List α} {ys : List β} :
    (x :: xs).mapM f = .ok ys ↔ ∃ z zs, f x = .ok z ∧ xs.mapM f = .ok zs ∧ ys = z :: zs := by
  rw [List.mapM_cons, bind_eq_ok]
  constructor
  · rintro ⟨z, hz, h⟩
    obtain ⟨zs, hzs, h⟩ := bind_eq_ok.1 h
    cases h
    exact ⟨z, zs, hz, hzs, rfl⟩
  · rintro ⟨z, zs, hz, hzs, rfl⟩
    exact ⟨z, hz, bind_eq_ok.2 ⟨zs, hzs, rfl⟩⟩

/-- A list of steps succeeds if each of them does, and has their results. -/
theorem mapM_eq_ok {f : α → Except ε β} {xs : List α} {ys : List β} :
    xs.mapM f = .ok ys ↔ List.Forall₂ (fun x y => f x = .ok y) xs ys := by
  induction xs generalizing ys with
  | nil =>
    constructor
    · intro h
      cases h
      exact .nil
    · rintro ⟨⟩
      rfl
  | cons x xs ih =>
    rw [mapM_cons_ok]
    constructor
    · rintro ⟨z, zs, hz, hzs, rfl⟩
      exact .cons hz (ih.1 hzs)
    · rintro (_ | ⟨hz, hzs⟩)
      exact ⟨_, _, hz, ih.2 hzs, rfl⟩

theorem exists_mapM {f : α → Except ε β} {xs : List α} (h : ∀ x ∈ xs, ∃ y, f x = .ok y) :
    ∃ ys, xs.mapM f = .ok ys := by
  induction xs with
  | nil => exact ⟨[], rfl⟩
  | cons x xs ih =>
    rw [List.forall_mem_cons] at h
    obtain ⟨y, hy⟩ := h.1
    obtain ⟨ys, hys⟩ := ih h.2
    exact ⟨y :: ys, mapM_cons_ok.2 ⟨y, ys, hy, hys, rfl⟩⟩

/-- A list of steps fails as the first step does that fails. -/
theorem mapM_eq_error {f : α → Except ε β} {xs : List α} {e : ε} :
    xs.mapM f = .error e ↔ ∃ before x after, xs = before ++ x :: after ∧
      (∀ y ∈ before, ∃ z, f y = .ok z) ∧ f x = .error e := by
  induction xs with
  | nil =>
    constructor
    · intro h
      cases h
    · rintro ⟨before, x, after, h, -⟩
      cases before <;> cases h
  | cons y ys ih =>
    rw [List.mapM_cons, bind_eq_error]
    constructor
    · rintro (h | ⟨z, hz, h⟩)
      · exact ⟨[], y, ys, rfl, nofun, h⟩
      · rw [bind_eq_error] at h
        -- only the rest of the steps can fail here, as the first one does not
        have htail := h.resolve_right fun ⟨zs, _, h⟩ => by cases h
        obtain ⟨before, x, after, hys, hbefore, hx⟩ := ih.1 htail
        refine ⟨y :: before, x, after, by rw [hys, List.cons_append], ?_, hx⟩
        exact List.forall_mem_cons.2 ⟨⟨z, hz⟩, hbefore⟩
    · rintro ⟨before, x, after, hys, hbefore, hx⟩
      cases before with
      | nil =>
        cases hys
        exact .inl hx
      | cons y' before =>
        cases hys
        rw [List.forall_mem_cons] at hbefore
        obtain ⟨z, hz⟩ := hbefore.1
        refine .inr ⟨z, hz, bind_eq_error.2 (.inl ?_)⟩
        exact ih.2 ⟨before, x, after, rfl, hbefore.2, hx⟩

/-- Each result of a list of steps is the result of a step. -/
theorem exists_of_mapM {f : α → Except ε β} {xs : List α} {ys : List β} (h : xs.mapM f = .ok ys) :
    ys.length = xs.length ∧ ∀ y ∈ ys, ∃ x ∈ xs, f x = .ok y := by
  induction xs generalizing ys with
  | nil =>
    cases h
    simp
  | cons x xs ih =>
    obtain ⟨z, zs, hz, hzs, rfl⟩ := mapM_cons_ok.1 h
    obtain ⟨hlength, hmem⟩ := ih hzs
    refine ⟨congrArg (· + 1) hlength, List.forall_mem_cons.2 ⟨⟨x, List.mem_cons_self, hz⟩, ?_⟩⟩
    intro y hy
    obtain ⟨x', hx', hf⟩ := hmem y hy
    exact ⟨x', List.mem_cons_of_mem _ hx', hf⟩

/-- Steps that undo a map give the mapped list back. -/
theorem mapM_map_ok {f : α → Except ε β} {g : β → α} {ys : List β}
    (h : ∀ y ∈ ys, f (g y) = .ok y) : (ys.map g).mapM f = .ok ys := by
  induction ys with
  | nil => rfl
  | cons y ys ih =>
    rw [List.forall_mem_cons] at h
    rw [List.map_cons]
    exact mapM_cons_ok.2 ⟨y, ys, h.1, ih h.2, rfl⟩

end FileQuery
