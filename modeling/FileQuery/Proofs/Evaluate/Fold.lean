import FileQuery.Proofs.Evaluate.Kleene
import FileQuery.Proofs.Result

/-!
# Folding a tree

Folding with a stack does what plain recursion does.  On the recursion it is proved that a folded tree
has the value of the tree it was made from, whatever the predicates that were not answered turn out
to be, and that it is decided or consists of such predicates only.  So a tree is decided just when the
answers decide it.
-/

namespace FileQuery.Query

/-! ## 1. Folding by recursion -/

section recursion

variable {m : Type → Type} [Monad m] (resolve : Predicate → m (Option Bool))

mutual
def Expr.reduce : Expr → m Expr
  | .pred p => do
    match ← resolve p with
    | some b => pure (.known b)
    | none => pure (.pred p)
  | .known b => pure (.known b)
  | .not e => do
    let e ← e.reduce
    pure e.negate
  | .and es => do
    let es ← reduceOperands true es
    pure (Expr.join true es)
  | .or es => do
    let es ← reduceOperands false es
    pure (Expr.join false es)
def reduceOperands (isAnd : Bool) : List Expr → m (List Expr)
  | [] => pure []
  | e :: es => do
    let e ← e.reduce
    if e.known? == some !isAnd then pure [e]
    else do
      let es ← reduceOperands isAnd es
      pure (e :: es)
end

variable [LawfulMonad m]

mutual
theorem foldFrom_visit : ∀ (e : Expr) (stack : List Pending),
    foldFrom resolve stack (.visit e) = e.reduce resolve >>= fun e => foldFrom resolve stack (.done e)
  | .pred p, stack => by
    -- what follows the answer is the same on both sides
    rw [foldFrom, Expr.reduce, bind_assoc]
    congr 1
    funext answer
    cases answer <;> simp
  | .known b, stack => by rw [foldFrom, Expr.reduce, pure_bind]
  | .not e, stack => by
    rw [foldFrom, Expr.reduce, bind_assoc, foldFrom_visit e]
    congr 1
    funext e'
    rw [pure_bind, foldFrom]
  | .and [], stack => by
    rw [foldFrom, Expr.reduce, reduceOperands, pure_bind, pure_bind]
  | .or [], stack => by
    rw [foldFrom, Expr.reduce, reduceOperands, pure_bind, pure_bind]
  | .and (e :: es), stack => by
    -- the first operand is visited while the others wait on the stack
    rw [foldFrom, Expr.reduce, bind_assoc, foldFrom_visit e, reduceOperands, bind_assoc]
    congr 1
    funext e'
    rw [foldFrom_operands true es]
    split <;> simp
  | .or (e :: es), stack => by
    rw [foldFrom, Expr.reduce, bind_assoc, foldFrom_visit e, reduceOperands, bind_assoc]
    congr 1
    funext e'
    rw [foldFrom_operands false es]
    split <;> simp

theorem foldFrom_operands (isAnd : Bool) :
    ∀ (es done : List Expr) (e : Expr) (stack : List Pending),
    foldFrom resolve (.join isAnd done es :: stack) (.done e) =
      if e.known? == some !isAnd then
        foldFrom resolve stack (.done (Expr.join isAnd (e :: done).reverse))
      else reduceOperands resolve isAnd es >>= fun es =>
        foldFrom resolve stack (.done (Expr.join isAnd ((e :: done).reverse ++ es)))
  | [], done, e, stack => by
    rw [foldFrom, reduceOperands]
    simp
  | next :: rest, done, e, stack => by
    rw [foldFrom]
    split
    · rfl
    -- the operand does not decide the join, so the next one is visited
    · rw [foldFrom_visit next, reduceOperands, bind_assoc]
      congr 1
      funext e'
      rw [foldFrom_operands isAnd rest]
      split <;> simp
end

theorem Expr.fold_eq_reduce (e : Expr) : e.fold resolve = e.reduce resolve := by
  rw [fold, foldFrom_visit]
  simp only [foldFrom, bind_pure]

end recursion

section relation

variable {m n : Type → Type} [Monad m] [Monad n] {R : ∀ α : Type, m α → n α → Prop}
  (resolve : Predicate → m (Option Bool)) (other : Predicate → n (Option Bool))

mutual
/-- Two ways to answer predicates are related also as ways to fold a tree, if steps in a row are. -/
theorem Expr.reduce_related (hpure : ∀ {α : Type} (a : α), R α (pure a) (pure a))
    (hbind : ∀ {α β : Type} {x : m α} {y : n α} {f : α → m β} {g : α → n β}, R α x y →
      (∀ a, R β (f a) (g a)) → R β (x >>= f) (y >>= g)) :
    ∀ e : Expr, (∀ p ∈ e.predicates, R _ (resolve p) (other p)) →
      R _ (e.reduce resolve) (e.reduce other)
  | .pred p, h => by
    refine hbind (h p List.mem_cons_self) fun answer => ?_
    cases answer <;> exact hpure _
  | .known b, _ => hpure _
  | .not e, h => hbind (Expr.reduce_related hpure hbind e h) fun _ => hpure _
  | .and es, h => hbind (reduceOperands_related hpure hbind true es h) fun _ => hpure _
  | .or es, h => hbind (reduceOperands_related hpure hbind false es h) fun _ => hpure _

theorem reduceOperands_related (hpure : ∀ {α : Type} (a : α), R α (pure a) (pure a))
    (hbind : ∀ {α β : Type} {x : m α} {y : n α} {f : α → m β} {g : α → n β}, R α x y →
      (∀ a, R β (f a) (g a)) → R β (x >>= f) (y >>= g)) (isAnd : Bool) :
    ∀ es : List Expr, (∀ p ∈ predicatesOf es, R _ (resolve p) (other p)) →
      R _ (reduceOperands resolve isAnd es) (reduceOperands other isAnd es)
  | [], _ => hpure _
  | e :: es, h => by
    refine hbind (Expr.reduce_related hpure hbind e fun p hp => h p (List.mem_append_left _ hp))
      fun e' => ?_
    split
    · exact hpure _
    · refine hbind (reduceOperands_related hpure hbind isAnd es fun p hp => ?_) fun _ => hpure _
      exact h p (List.mem_append_right _ hp)
end

end relation

/-! ## 2. Trees that are open -/

/-- A tree in which nothing is decided and whose predicates are all of some kind. -/
inductive Expr.Open (P : Predicate → Prop) : Expr → Prop
  | pred {p : Predicate} : P p → Open P (.pred p)
  | not {e : Expr} : Open P e → Open P (.not e)
  | and {es : List Expr} : es ≠ [] → (∀ e ∈ es, Open P e) → Open P (.and es)
  | or {es : List Expr} : es ≠ [] → (∀ e ∈ es, Open P e) → Open P (.or es)

def Expr.Folded (P : Predicate → Prop) (e : Expr) : Prop :=
  e.known?.isSome ∨ e.Open P

namespace Expr

variable {P Q : Predicate → Prop}

theorem Open.mono {e : Expr} (h : e.Open P) (hPQ : ∀ p, P p → Q p) : e.Open Q := by
  induction h with
  | pred hp => exact .pred (hPQ _ hp)
  | not _ ih => exact .not ih
  | and hne _ ih => exact .and hne ih
  | or hne _ ih => exact .or hne ih

theorem Open.of_mem_predicates {e : Expr} (h : e.Open P) : ∀ p ∈ e.predicates, P p := by
  induction h with
  | pred hp => simpa [predicates] using hp
  | not _ ih => exact ih
  | and _ _ ih | or _ _ ih =>
    intro p hp
    obtain ⟨e, he, hpe⟩ := mem_predicatesOf.1 hp
    exact ih e he p hpe

/-- There is at least one predicate in an open tree. -/
theorem Open.exists_predicate {e : Expr} (h : e.Open P) : ∃ p ∈ e.predicates, P p := by
  induction h with
  | @pred p hp => exact ⟨p, by simp [predicates], hp⟩
  | not _ ih => exact ih
  | @and es hne _ ih | @or es hne _ ih =>
    obtain ⟨e, he⟩ := List.exists_mem_of_ne_nil es hne
    obtain ⟨p, hp, hP⟩ := ih e he
    exact ⟨p, mem_predicatesOf.2 ⟨e, he, hp⟩, hP⟩

theorem Open.of_predicates {e : Expr} (h : e.Open P) (hQ : ∀ p ∈ e.predicates, Q p) : e.Open Q := by
  induction h with
  | pred hp => exact .pred (hQ _ List.mem_cons_self)
  | not _ ih => exact .not (ih hQ)
  | and hne _ ih =>
    exact .and hne fun e he => ih e he fun p hp => hQ p (mem_predicatesOf.2 ⟨e, he, hp⟩)
  | or hne _ ih =>
    exact .or hne fun e he => ih e he fun p hp => hQ p (mem_predicatesOf.2 ⟨e, he, hp⟩)

/-- An open tree has no value while its predicates have none. -/
theorem Open.kleene_none {w : Predicate → Option Bool} {e : Expr} (h : e.Open P)
    (hw : ∀ p, P p → w p = none) : e.kleene w = none := by
  induction h with
  | pred hp => exact hw _ hp
  | not _ ih =>
    rw [kleene, ih]
    rfl
  | and hne _ ih => exact kleeneOf_none hne ih
  | or hne _ ih => exact kleeneOf_none hne ih

theorem Folded.mono {e : Expr} (h : e.Folded P) (hPQ : ∀ p, P p → Q p) : e.Folded Q :=
  h.imp_right (·.mono hPQ)

theorem Folded.of_mem_predicates {e : Expr} (h : e.Folded P) : ∀ p ∈ e.predicates, P p := by
  cases h with
  | inl hknown => cases e <;> simp [known?, predicates] at hknown ⊢
  | inr hopen => exact hopen.of_mem_predicates

theorem Folded.open {e : Expr} (h : e.Folded P) (hknown : e.known? = none) : e.Open P := by
  cases h with
  | inl h => rw [hknown] at h; cases h
  | inr h => exact h

theorem Folded.negate {e : Expr} (h : e.Folded P) : e.negate.Folded P := by
  cases h with
  | inl hknown => cases e <;> first | exact .inl rfl | cases hknown
  | inr hopen => cases hopen <;> exact .inr (.not (by constructor <;> assumption))

theorem open_joined {isAnd : Bool} {es : List Expr} (hne : es ≠ []) (h : ∀ e ∈ es, e.Open P) :
    (joined isAnd es).Open P := by
  cases isAnd with
  | true => exact .and hne h
  | false => exact .or hne h

theorem folded_join (isAnd : Bool) {es : List Expr} (h : ∀ e ∈ es, e.Folded P) :
    (join isAnd es).Folded P := by
  -- a folded operand that is not decided is open
  have hopen : ∀ e ∈ es.filter (·.known?.isNone), e.Open P := by
    intro e he
    rw [List.mem_filter] at he
    exact (h e he.1).open (by simpa using he.2)
  rw [join]
  split
  · exact .inl rfl
  · split
    · exact .inl rfl
    · next e hone => exact .inr (hopen e (by rw [hone]; exact List.mem_cons_self))
    · next hne _ => exact .inr (open_joined hne hopen)

end Expr

/-! ## 3. What folding makes of a tree -/

section answers

variable {ε : Type} {ans : Predicate → Except ε (Option Bool)}

/-- Values of predicates that are in accord with the answers to those of a tree. -/
def Agree (ans : Predicate → Except ε (Option Bool)) (w : Predicate → Option Bool)
    (ps : List Predicate) : Prop :=
  ∀ p ∈ ps, ∀ b, ans p = .ok (some b) → w p = some b

def Unanswered (ans : Predicate → Except ε (Option Bool)) (ps : List Predicate) (p : Predicate) :
    Prop :=
  p ∈ ps ∧ ans p = .ok none

theorem Unanswered.mono {ps qs : List Predicate} (h : ps ⊆ qs) {p : Predicate}
    (hp : Unanswered ans ps p) : Unanswered ans qs p :=
  ⟨h hp.1, hp.2⟩

mutual
/-- A folded tree has the value of the tree it was made from. -/
theorem Expr.kleene_of_reduce {w : Predicate → Option Bool} :
    ∀ {e e' : Expr}, e.reduce ans = .ok e' → Agree ans w e.predicates → e'.kleene w = e.kleene w
  | .pred p, e', h, hw => by
    obtain ⟨answer, ha, h⟩ := bind_eq_ok.1 h
    cases answer with
    | none => cases h; rfl
    | some b => cases h; exact (hw p List.mem_cons_self b ha).symm
  | .known b, e', h, _ => by cases h; rfl
  | .not e, _, h, hw => by
    obtain ⟨e', he, h⟩ := bind_eq_ok.1 h
    cases h
    rw [Expr.kleene_negate, Expr.kleene_of_reduce he hw]
    rfl
  | .and es, _, h, hw => by
    -- the operands that are left join to the same value
    obtain ⟨es', hes, h⟩ := bind_eq_ok.1 h
    cases h
    rw [Expr.kleene_join, kleeneOf_of_reduceOperands hes hw]
    rfl
  | .or es, _, h, hw => by
    obtain ⟨es', hes, h⟩ := bind_eq_ok.1 h
    cases h
    rw [Expr.kleene_join, kleeneOf_of_reduceOperands hes hw]
    rfl

/-- The operands that are left out after a deciding one do not change the value. -/
theorem kleeneOf_of_reduceOperands {w : Predicate → Option Bool} {isAnd : Bool} :
    ∀ {es es' : List Expr}, reduceOperands ans isAnd es = .ok es' →
    Agree ans w (predicatesOf es) → kleeneOf w isAnd es' = kleeneOf w isAnd es
  | [], _, h, _ => by cases h; rfl
  | e :: es, es', h, hw => by
    obtain ⟨e', he, h⟩ := bind_eq_ok.1 h
    have hvalue := Expr.kleene_of_reduce he fun p hp => hw p (List.mem_append_left _ hp)
    split at h
    · next hdecides =>
      cases h
      -- what is left out after a deciding operand is absorbed by it on the other side
      have hdecided := Expr.kleene_of_known w (beq_iff_eq.1 hdecides)
      rw [show kleeneOf w isAnd [e'] = joinValues isAnd (e'.kleene w) (some isAnd) from rfl,
        kleeneOf, ← hvalue, hdecided, joinValues_decided_left, joinValues_decided_left]
    · obtain ⟨fs, hfs, h⟩ := bind_eq_ok.1 h
      cases h
      rw [kleeneOf, kleeneOf, hvalue,
        kleeneOf_of_reduceOperands hfs fun p hp => hw p (List.mem_append_right _ hp)]
end

mutual
/-- What is left of a folded tree was asked and not answered. -/
theorem Expr.folded_of_reduce :
    ∀ {e e' : Expr}, e.reduce ans = .ok e' → e'.Folded (Unanswered ans e.predicates)
  | .pred p, e', h => by
    obtain ⟨answer, ha, h⟩ := bind_eq_ok.1 h
    cases answer with
    | none => cases h; exact .inr (.pred ⟨List.mem_cons_self, ha⟩)
    | some b => cases h; exact .inl rfl
  | .known b, e', h => by cases h; exact .inl rfl
  | .not e, _, h => by
    obtain ⟨e', he, h⟩ := bind_eq_ok.1 h
    cases h
    exact (Expr.folded_of_reduce he).negate
  | .and es, _, h => by
    obtain ⟨es', hes, h⟩ := bind_eq_ok.1 h
    cases h
    exact Expr.folded_join true (folded_of_reduceOperands hes)
  | .or es, _, h => by
    obtain ⟨es', hes, h⟩ := bind_eq_ok.1 h
    cases h
    exact Expr.folded_join false (folded_of_reduceOperands hes)

theorem folded_of_reduceOperands {isAnd : Bool} :
    ∀ {es es' : List Expr}, reduceOperands ans isAnd es = .ok es' →
    ∀ e' ∈ es', e'.Folded (Unanswered ans (predicatesOf es))
  | [], _, h => by cases h; simp
  | e :: es, es', h => by
    obtain ⟨e', he, h⟩ := bind_eq_ok.1 h
    have hfirst : e'.Folded (Unanswered ans (predicatesOf (e :: es))) :=
      (Expr.folded_of_reduce he).mono fun p => .mono (List.subset_append_left _ _)
    split at h
    · cases h
      simpa using hfirst
    · obtain ⟨fs, hfs, h⟩ := bind_eq_ok.1 h
      cases h
      intro f hf
      cases hf with
      | head => exact hfirst
      | tail _ hf =>
        exact (folded_of_reduceOperands hfs f hf).mono fun p => .mono (List.subset_append_right _ _)
end

mutual
/-- Folding fails as an answer does. -/
theorem Expr.error_of_reduce {fault : ε} : ∀ e : Expr, e.reduce ans = .error fault →
    ∃ p ∈ e.predicates, ans p = .error fault
  | .pred p, h => by
    rcases bind_eq_error.1 h with h | ⟨answer, -, h⟩
    · exact ⟨p, List.mem_cons_self, h⟩
    · cases answer <;> cases h
  | .known b, h => by cases h
  | .not e, h => by
    rcases bind_eq_error.1 h with h | ⟨e', -, h⟩
    · exact e.error_of_reduce h
    · cases h
  | .and es, h => by
    rcases bind_eq_error.1 h with h | ⟨es', -, h⟩
    · exact error_of_reduceOperands true es h
    · cases h
  | .or es, h => by
    rcases bind_eq_error.1 h with h | ⟨es', -, h⟩
    · exact error_of_reduceOperands false es h
    · cases h

theorem error_of_reduceOperands {fault : ε} (isAnd : Bool) : ∀ es : List Expr,
    reduceOperands ans isAnd es = .error fault → ∃ p ∈ predicatesOf es, ans p = .error fault
  | [], h => by cases h
  | e :: es, h => by
    rcases bind_eq_error.1 h with h | ⟨e', -, h⟩
    · obtain ⟨p, hp, hfault⟩ := e.error_of_reduce h
      exact ⟨p, List.mem_append_left _ hp, hfault⟩
    · split at h
      · cases h
      · rcases bind_eq_error.1 h with h | ⟨es', -, h⟩
        · obtain ⟨p, hp, hfault⟩ := error_of_reduceOperands isAnd es h
          exact ⟨p, List.mem_append_right _ hp, hfault⟩
        · cases h
end

/-- Folding succeeds where all answers do. -/
theorem Expr.exists_reduce (e : Expr) (h : ∀ p ∈ e.predicates, ∃ answer, ans p = .ok answer) :
    ∃ e', e.reduce ans = .ok e' := by
  cases hreduce : e.reduce ans with
  | ok e' => exact ⟨e', rfl⟩
  | error fault =>
    obtain ⟨p, hp, hfault⟩ := e.error_of_reduce hreduce
    obtain ⟨answer, hanswer⟩ := h p hp
    rw [hanswer] at hfault
    cases hfault

/-- What folding with all values that are known decides is the value of the tree. -/
theorem Expr.known?_of_reduce {w : Predicate → Option Bool} {e e' : Expr}
    (h : e.reduce ans = .ok e') (hw : ∀ p ∈ e.predicates, ans p = .ok (w p)) :
    e'.known? = e.kleene w := by
  have hvalue : e'.kleene w = e.kleene w :=
    Expr.kleene_of_reduce h fun p hp b hb => Except.ok.inj ((hw p hp).symm.trans hb)
  rw [← hvalue]
  cases hknown : e'.known? with
  | some b => exact (Expr.kleene_of_known w hknown).symm
  | none =>
    have hopen := (Expr.folded_of_reduce h).open hknown
    exact (hopen.kleene_none fun p hp => Except.ok.inj ((hw p hp.1).symm.trans hp.2)).symm

end answers

/-! ## 4. Folding with given values -/

/-- Values that are given are answers that never fail. -/
theorem Expr.reduce_ok (ε : Type) (w : Predicate → Option Bool) (e : Expr) :
    e.reduce (fun p => (.ok (w p) : Except ε (Option Bool))) = .ok (Id.run (e.reduce (m := Id) w)) := by
  refine Expr.reduce_related (m := Except ε) (n := Id) (R := fun _ x y => x = Except.ok (Id.run y))
    _ w (fun _ => rfl) ?_ e fun _ _ => rfl
  rintro α β _ y f g rfl hf
  exact hf (Id.run y)

/-- A tree has a value if all its predicates have one. -/
theorem Expr.isSome_kleene {w : Predicate → Option Bool} {e : Expr}
    (h : ∀ p ∈ e.predicates, (w p).isSome) : (e.kleene w).isSome := by
  have hreduce := e.reduce_ok Empty w
  rw [← Expr.known?_of_reduce hreduce fun _ _ => rfl]
  refine (Expr.folded_of_reduce hreduce).resolve_right fun hopen => ?_
  obtain ⟨p, -, hp, hnone⟩ := hopen.exists_predicate
  have hsome := h p hp
  rw [Except.ok.inj hnone] at hsome
  cases hsome

/-- Folding with values of some predicates decides a tree just when these values decide it.  Whatever
values the other predicates take, what is left of the tree has the value of the tree. -/
theorem Expr.fold_decides_kleene (e : Expr) (w : Predicate → Option Bool) :
    (∀ b, Id.run (e.fold (m := Id) w) = .known b ↔ e.kleene w = some b) ∧
      ∀ v : Predicate → Bool, (∀ p b, w p = some b → v p = b) →
        (Id.run (e.fold (m := Id) w)).holds v = e.holds v := by
  have hreduce := Expr.reduce_ok Empty w e
  rw [Expr.fold_eq_reduce]
  generalize Id.run (e.reduce (m := Id) w) = e' at hreduce ⊢
  constructor
  · intro b
    have hvalue : e'.kleene w = e.kleene w :=
      Expr.kleene_of_reduce hreduce fun p _ b hb => Except.ok.inj hb
    rw [← hvalue]
    constructor
    · intro h
      rw [h]
      rfl
    · intro h
      cases Expr.folded_of_reduce hreduce with
      | inl hknown =>
        obtain ⟨b', hb'⟩ := Option.isSome_iff_exists.1 hknown
        rw [Expr.kleene_of_known w hb'] at h
        cases h
        exact Expr.eq_known_of_known? hb'
      | inr hopen =>
        -- what is left open has no value, because its predicates were asked and have none
        rw [hopen.kleene_none fun p hp => Except.ok.inj hp.2] at h
        cases h
  · intro v hv
    have hvalue : e'.kleene (fun p => some (v p)) = e.kleene fun p => some (v p) :=
      Expr.kleene_of_reduce hreduce fun p _ b hb => congrArg some (hv p b (Except.ok.inj hb))
    rw [Expr.kleene_some, Expr.kleene_some] at hvalue
    exact Option.some.inj hvalue

end FileQuery.Query
