import FileQuery.Proofs.Evaluate.Laziness
import FileQuery.Proofs.Evaluate.Stages

/-!
# What is left of a query

A fold that does not decide a tree leaves a clean one: nothing in it is decided, every combinator has
at least two operands, and its predicates are predicates of the tree in their order, all without a
value.  So what the content has to decide is a clean tree of conditions on content.
-/

namespace FileQuery.Query

/-! ## 1. Clean trees -/

/-- Trees in which nothing is decided and every conjunction and disjunction has at least two
operands. -/
inductive Expr.Clean : Expr → Prop
  | pred (p : Predicate) : Clean (.pred p)
  | not {e : Expr} : Clean e → Clean (.not e)
  | and {es : List Expr} : 2 ≤ es.length → (∀ e ∈ es, Clean e) → Clean (.and es)
  | or {es : List Expr} : 2 ≤ es.length → (∀ e ∈ es, Clean e) → Clean (.or es)

/-- What folding may make of a tree with given predicates: something decided, or a clean tree with
some of these predicates in their order. -/
structure Expr.Residue (ps : List Predicate) (e : Expr) : Prop where
  clean : e.known? = none → e.Clean
  sublist : e.predicates.Sublist ps

/-! ## 2. One step of a fold -/

namespace Expr

variable {ps : List Predicate} {e : Expr} {es : List Expr} {isAnd : Bool}

theorem Residue.known (b : Bool) : (Expr.known b).Residue ps :=
  ⟨nofun, List.nil_sublist ps⟩

theorem Residue.negate (h : e.Residue ps) : e.negate.Residue ps := by
  cases e with
  | known b => exact .known !b
  | _ => exact ⟨fun _ => .not (h.clean rfl), h.sublist⟩

theorem clean_joined (hlength : 2 ≤ es.length) (h : ∀ e ∈ es, e.Clean) :
    (joined isAnd es).Clean := by
  cases isAnd with
  | true => exact .and hlength h
  | false => exact .or hlength h

theorem predicates_joined (isAnd : Bool) (es : List Expr) :
    (joined isAnd es).predicates = predicatesOf es := by
  cases isAnd <;> rfl

theorem sublist_predicatesOf_filter (f : Expr → Bool) (es : List Expr) :
    (predicatesOf (es.filter f)).Sublist (predicatesOf es) := by
  induction es with
  | nil => exact List.Sublist.slnil
  | cons e es ih =>
    rw [List.filter_cons, predicatesOf]
    split
    · exact ih.append_left e.predicates
    · exact List.sublist_append_of_sublist_right ih

/-- A join drops operands that are decided, and is itself dropped when a single one is left. -/
theorem residue_join (isAnd : Bool) (h : ∀ e ∈ es, e.known? = none → e.Clean) :
    (join isAnd es).Residue (predicatesOf es) := by
  have hclean : ∀ e ∈ es.filter (·.known?.isNone), e.Clean := by
    intro e he
    rw [List.mem_filter] at he
    exact h e he.1 (by simpa using he.2)
  have hsublist := sublist_predicatesOf_filter (·.known?.isNone) es
  rw [join]
  split
  · exact .known _
  · split
    · exact .known _
    · next e hone =>
      rw [hone] at hclean hsublist
      refine ⟨fun _ => hclean e List.mem_cons_self, ?_⟩
      simpa only [predicatesOf, List.append_nil] using hsublist
    · next es' hnil hone =>
      -- neither empty nor a single operand
      have hlength : 2 ≤ (es.filter (·.known?.isNone)).length := by
        rcases hes : es.filter (·.known?.isNone) with _ | ⟨e, _ | ⟨e', rest⟩⟩
        · exact absurd hes hnil
        · exact absurd hes (hone e)
        · rw [hes]
          exact Nat.le_add_left 2 _
      refine ⟨fun _ => clean_joined hlength hclean, ?_⟩
      rw [predicates_joined]
      exact hsublist

end Expr

/-! ## 3. A whole fold -/

section answers

variable {ε : Type} {ans : Predicate → Except ε (Option Bool)}

mutual
theorem Expr.residue_of_reduce :
    ∀ {e e' : Expr}, e.reduce ans = .ok e' → e'.Residue e.predicates
  | .pred p, e', h => by
    obtain ⟨answer, -, h⟩ := bind_eq_ok.1 h
    cases answer with
    | none =>
      cases h
      exact ⟨fun _ => .pred p, List.Sublist.refl _⟩
    | some b =>
      cases h
      exact .known b
  | .known b, e', h => by
    cases h
    exact .known b
  | .not e, _, h => by
    obtain ⟨e', he, h⟩ := bind_eq_ok.1 h
    cases h
    exact (Expr.residue_of_reduce he).negate
  | .and es, _, h => by
    -- the join has some of the operands, and these have some of the predicates
    obtain ⟨es', hes, h⟩ := bind_eq_ok.1 h
    cases h
    obtain ⟨hclean, hsublist⟩ := residue_of_reduceOperands hes
    have hjoin := Expr.residue_join true hclean
    exact ⟨hjoin.clean, hjoin.sublist.trans hsublist⟩
  | .or es, _, h => by
    obtain ⟨es', hes, h⟩ := bind_eq_ok.1 h
    cases h
    obtain ⟨hclean, hsublist⟩ := residue_of_reduceOperands hes
    have hjoin := Expr.residue_join false hclean
    exact ⟨hjoin.clean, hjoin.sublist.trans hsublist⟩

/-- The operands after one that decides the join are not looked at; their predicates are lost. -/
theorem residue_of_reduceOperands {isAnd : Bool} :
    ∀ {es es' : List Expr}, reduceOperands ans isAnd es = .ok es' →
    (∀ e' ∈ es', e'.known? = none → e'.Clean) ∧ (predicatesOf es').Sublist (predicatesOf es)
  | [], _, h => by
    cases h
    exact ⟨nofun, List.Sublist.refl _⟩
  | e :: es, es', h => by
    obtain ⟨e', he, h⟩ := bind_eq_ok.1 h
    have hfirst := Expr.residue_of_reduce he
    -- after an operand that decides the join the others are dropped
    split at h
    · cases h
      refine ⟨by simpa using hfirst.clean, ?_⟩
      simpa only [predicatesOf, List.append_nil] using
        List.sublist_append_of_sublist_left hfirst.sublist
    · obtain ⟨fs, hfs, h⟩ := bind_eq_ok.1 h
      cases h
      obtain ⟨hclean, hsublist⟩ := residue_of_reduceOperands hfs
      refine ⟨fun f hf => ?_, hfirst.sublist.append hsublist⟩
      cases hf with
      | head => exact hfirst.clean
      | tail _ hf => exact hclean f hf
end

end answers

/-- What given values leave undecided is clean, has predicates of the tree in their order, and none of
them has a value. -/
theorem Expr.residue_foldWith (w : Predicate → Option Bool) (e : Expr) :
    (e.foldWith w).Residue e.predicates ∧ ∀ p ∈ (e.foldWith w).predicates, w p = none := by
  have hreduce := Expr.reduce_ok Empty w e
  rw [← Expr.foldWith_eq_reduce] at hreduce
  refine ⟨Expr.residue_of_reduce hreduce, fun p hp => ?_⟩
  exact Except.ok.inj ((Expr.folded_of_reduce hreduce).of_mem_predicates p hp).2

/-! ## 4. Between two categories -/

variable {setting : Setting} {entity : Entity} {c : Category} {cs : List Category} {e : Expr}
  {frame : Frame}

theorem residue_of_categoryReduced {e' : Expr} (h : categoryReduced setting entity c e = .ok e') :
    e'.Residue e.predicates := by
  cases c with
  | content =>
    have hknown := known_of_contentReduced h
    cases e' with
    | known b => exact .known b
    | _ => cases hknown
  | _ => exact Expr.residue_of_reduce h

/-- The states between two categories of an evaluation, with the categories still to come: the first
state, and the one after a category that leaves the query undecided. -/
inductive Pauses (setting : Setting) (entity : Entity) (e : Expr) : List Category → Frame → Prop
  | start : Pauses setting entity e categories { expr := e }
  | next {c : Category} {rest : List Category} {frame frame' : Frame} {e' : Expr} :
      Pauses setting entity e (c :: rest) frame →
      (resolveCategory setting entity c frame.expr).run { frame with phase := .pending c } =
        (.ok e', frame') →
      e'.known? = none → Pauses setting entity e rest { frame' with expr := e' }

namespace Pauses

theorem awaits (h : Pauses setting entity e cs frame) (htyped : ∀ p ∈ e.predicates, p.WellTyped) :
    frame.Awaits setting entity cs := by
  induction h with
  | start => exact Frame.awaits_initial htyped
  | next _ hrun hknown ih => exact ih.next hrun hknown

/-- An evaluation goes on from each of its pauses. -/
theorem evaluate_eq (h : Pauses setting entity e cs frame)
    (htyped : ∀ p ∈ e.predicates, p.WellTyped) :
    e.evaluate setting entity = (resolveAll setting entity cs).run frame := by
  induction h with
  | start => rfl
  | next hpauses hrun hknown ih =>
    have hascending := (hpauses.awaits htyped).ascending
    rw [ih, resolveAll_cons_run (hascending.1 _ List.mem_cons_self), hrun]
    simp only [hknown]

theorem residue (h : Pauses setting entity e cs frame) (htyped : ∀ p ∈ e.predicates, p.WellTyped) :
    frame.expr.predicates.Sublist e.predicates ∧ (cs ≠ categories → frame.expr.Clean) := by
  induction h with
  | start => exact ⟨List.Sublist.refl _, fun h => absurd rfl h⟩
  | next hpauses hrun hknown ih =>
    obtain ⟨hreduced, -, -⟩ := (hpauses.awaits htyped).reduced hrun
    have hresidue := residue_of_categoryReduced hreduced
    exact ⟨hresidue.sublist.trans ih.1, fun _ => hresidue.clean hknown⟩

/-- An evaluation that asks for the content has paused before. -/
theorem exists_before_content (h : Pauses setting entity e (cs ++ [.content]) frame)
    (htyped : ∀ p ∈ e.predicates, p.WellTyped)
    (hasked : .content ∈ ((resolveAll setting entity (cs ++ [.content])).run frame).2.accesses) :
    ∃ frame', Pauses setting entity e [.content] frame' := by
  induction cs generalizing frame with
  | nil => exact ⟨frame, h⟩
  | cons c rest ih =>
    have hawaits := h.awaits htyped
    have hfirst := hawaits.asks.asked
    rw [List.cons_append, resolveAll_cons_run (hawaits.ascending.1 c List.mem_cons_self)] at hasked
    rcases hrun : (resolveCategory setting entity c frame.expr).run
      { frame with phase := .pending c } with ⟨fault | e', frame'⟩
    all_goals
      rw [hrun] at hfirst hasked
      -- the category itself does not ask for the content
      have hunasked : .content ∉ frame'.accesses := by
        intro hmem
        have hlast : Category.content ∈ rest ++ [.content] := List.mem_append_right _ (by simp)
        cases hfirst.allowed _ hmem with
        | inl hbefore => exact hawaits.unasked _ hbefore (List.mem_cons_of_mem c hlast)
        | inr hnow =>
          have hc : Category.content = c := hnow.1
          exact hawaits.ascending.not_mem (hc ▸ hlast)
    · exact absurd hasked hunasked
    · cases hknown : e'.known? with
      | some b =>
        obtain ⟨-, -, hphase⟩ := hawaits.reduced hrun
        have hentry : ({ frame' with expr := e' } : Frame).phase = .pending c := hphase
        simp only [hknown] at hasked
        rw [conclude_run hentry] at hasked
        exact absurd hasked hunasked
      | none =>
        simp only [hknown] at hasked
        exact ih (h.next hrun hknown) hasked

end Pauses

/-- Whatever is folded with given values is decided or clean, with predicates of the tree in their
order that have no value.  So an evaluation of a typed tree that asks for the content has come to a
tree that is clean and consists of conditions on content of the query, in their order. -/
theorem Expr.residue_clean (e : Expr) :
    (∀ w, (e.foldWith w).known? = none →
      (e.foldWith w).Clean ∧ (e.foldWith w).predicates.Sublist e.predicates ∧
        ∀ p ∈ (e.foldWith w).predicates, w p = none) ∧
    ∀ setting entity, (∀ p ∈ e.predicates, p.WellTyped) →
      (.content ∈ (e.evaluate setting entity).2.accesses →
        ∃ frame, Pauses setting entity e [.content] frame) ∧
      ∀ frame, Pauses setting entity e [.content] frame →
        e.evaluate setting entity = (resolveAll setting entity [.content]).run frame ∧
        frame.expr.Clean ∧ frame.expr.predicates.Sublist e.predicates ∧
        ∀ p ∈ frame.expr.predicates, p.category = .content ∧
          ∃ m ∈ frame.expr.contentMatchers, p.contentMatcher? = some m := by
  refine ⟨fun w hknown => ?_, fun setting entity htyped => ⟨fun hasked => ?_, fun frame h => ?_⟩⟩
  · obtain ⟨hresidue, hopen⟩ := e.residue_foldWith w
    exact ⟨hresidue.clean hknown, hresidue.sublist, hopen⟩
  · have hstart : Pauses setting entity e ([.name, .metadata, .structured] ++ [.content])
        { expr := e } := .start
    exact hstart.exists_before_content htyped hasked
  · -- the conditions on content are all that is left
    obtain ⟨hsublist, hclean⟩ := h.residue htyped
    refine ⟨h.evaluate_eq htyped, hclean (by decide), hsublist, fun p hp => ?_⟩
    have hcategory : p.category = .content :=
      List.mem_singleton.1 ((h.awaits htyped).categories p hp)
    obtain ⟨m, hm⟩ := contentMatcher_of_category (htyped p (hsublist.subset hp)) hcategory
    refine ⟨hcategory, m, ?_, hm⟩
    rw [Expr.contentMatchers, List.mem_eraseDups]
    exact List.mem_filterMap.2 ⟨p, hp, hm⟩

/-- A name that fits and a size that does not leave two conditions on content. -/
theorem Expr.residue_clean_conditions :
    let entity : Entity := {
      path := "a.txt"
      metadata := .ok { type := .file, size := some 1 }
      documents := fun _ _ => .ok []
      content := fun _ => ⟨[[97, 98]], none⟩ }
    let b : Predicate := ⟨.content, some .contains, .content (.contains "b")⟩
    let a : Predicate := ⟨.content, some .contains, .content (.contains "a")⟩
    let e : Expr := .and [.pred ⟨.ext, some .eq, .text "txt"⟩,
      .or [.pred ⟨.size, some .gt, .number 1⟩, .pred b], .pred a]
    (∀ p ∈ e.predicates, p.WellTyped) ∧ (e.foldWith fun p => if p = b then some false else none) =
        .and [.pred ⟨.ext, some .eq, .text "txt"⟩, .pred ⟨.size, some .gt, .number 1⟩, .pred a] ∧
      ∃ frame, Pauses {} entity e [.content] frame ∧ frame.expr.Clean := by
  intro entity b a e
  have hparse : parse (.ofDepth 9) ⟨.fixed 0 0, .fixed 0⟩
      "ext == txt AND (size > 1 OR content contains b) AND content contains a" = .ok e := by
    with_unfolding_all rfl
  have htyped := wellTyped_of_parse hparse
  obtain ⟨hpauses, hclean⟩ := (Expr.residue_clean e).2 {} entity htyped
  obtain ⟨frame, hframe⟩ := hpauses (by with_unfolding_all decide)
  exact ⟨htyped, by with_unfolding_all rfl, frame, hframe, (hclean frame hframe).2.1⟩

end FileQuery.Query
