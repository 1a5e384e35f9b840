import FileQuery.Proofs.Evaluate.Accesses
import FileQuery.Proofs.Evaluate.Progress

/-!
# Evaluations are lazy

A folded tree that is not decided has no value as long as the predicates left in it have none.  So when
a category is asked, the cheaper ones do not decide the query; and a query that they decide does not
look any further.
-/

namespace FileQuery.Query

variable {stack : Pattern.Stack}

variable {setting : Setting} {entity : Entity}

/-! ## 1. What cheaper categories know -/

/-- Whether the predicates of a category are decided before those of another. -/
def Category.isBefore (c d : Category) : Bool :=
  decide ((Phase.pending c).rank < (Phase.pending d).rank)

/-- The values of the predicates of categories before one, each on its own; the others have none. -/
def valuesBefore (setting : Setting) (entity : Entity) (c : Category) (p : Predicate) : Option Bool :=
  if p.category.isBefore c then (p.alone setting entity).toOption.join else none

theorem valuesBefore_of_isBefore {c : Category} {p : Predicate} {b : Bool}
    (hbefore : p.category.isBefore c = true) (hb : p.alone setting entity = .ok (some b)) :
    valuesBefore setting entity c p = some b := by
  rw [valuesBefore, if_pos hbefore, hb]
  rfl

theorem valuesBefore_of_not_isBefore {c : Category} {p : Predicate}
    (h : p.category.isBefore c = false) : valuesBefore setting entity c p = none := by
  rw [valuesBefore, if_neg (by simp [h])]

theorem Category.isBefore_trans {c d e : Category} (h : c.isBefore d = true)
    (hde : e.isBefore d = false) : c.isBefore e = true := by
  rw [isBefore, decide_eq_true_iff] at h ⊢
  rw [isBefore, decide_eq_false_iff_not] at hde
  omega

/-- Later categories know at least as much. -/
theorem valuesBefore_mono {c d : Category} (h : d.isBefore c = false) {p : Predicate} {b : Bool}
    (hb : valuesBefore setting entity c p = some b) : valuesBefore setting entity d p = some b := by
  by_cases hbefore : p.category.isBefore c = true
  · rw [valuesBefore, if_pos hbefore] at hb
    rw [valuesBefore, if_pos (Category.isBefore_trans hbefore h), hb]
  · rw [valuesBefore, if_neg hbefore] at hb
    cases hb

/-! ## 2. One category after the other -/

theorem Ascending.isBefore {phase : Phase} {c d : Category} {rest : List Category}
    (h : Ascending phase (c :: rest)) (hd : d ∈ rest) : c.isBefore d = true :=
  decide_eq_true ((List.pairwise_cons.1 h.2).1 d hd)

theorem Ascending.not_mem {phase : Phase} {c : Category} {rest : List Category}
    (h : Ascending phase (c :: rest)) : c ∉ rest := by
  intro hmem
  have hself := h.isBefore hmem
  rw [Category.isBefore, decide_eq_true_iff] at hself
  exact Nat.lt_irrefl _ hself

/-- Nothing comes after the content. -/
theorem Ascending.eq_content {phase : Phase} {c : Category} {rest : List Category}
    (h : Ascending phase (.content :: rest)) (hc : c ∈ .content :: rest) : c = .content := by
  rw [List.mem_cons] at hc
  refine hc.resolve_right fun hrest => ?_
  have hafter := h.isBefore hrest
  cases c <;> cases hafter

/-- The predicates of categories that are still to come have no value before the first of these. -/
theorem kleene_valuesBefore {phase : Phase} {c : Category} {rest : List Category} {e : Expr}
    (hphase : Ascending phase (c :: rest)) (hopen : e.Open fun _ => True)
    (hcategories : ∀ p ∈ e.predicates, p.category ∈ c :: rest) :
    e.kleene (valuesBefore setting entity c) = none := by
  refine (hopen.of_predicates hcategories).kleene_none fun p hp => ?_
  refine valuesBefore_of_not_isBefore ?_
  rw [Category.isBefore, decide_eq_false_iff_not, Nat.not_lt]
  rw [List.mem_cons] at hp
  cases hp with
  | inl hc => exact Nat.le_of_eq (by rw [hc])
  | inr hrest => exact Nat.le_of_lt ((List.pairwise_cons.1 hphase.2).1 _ hrest)

/-- Why something is asked for: the predicates of cheaper categories do not decide the tree, and one of
its predicates needs the answer. -/
structure Access.IsDue (setting : Setting) (entity : Entity) (e : Expr) (a : Access) : Prop where
  needed : a.IsNeeded entity.path e
  undecided : e.kleene (valuesBefore setting entity a.category) = none

/-- What is due when a category has been decided was due before. -/
theorem Access.IsDue.of_categoryReduced {c : Category} {e e' : Expr} {a : Access}
    (ha : a.IsDue setting entity e') (htyped : ∀ p ∈ e.predicates, p.WellTyped)
    (h : categoryReduced setting entity c e = .ok e') (hbefore : c.isBefore a.category = true) :
    a.IsDue setting entity e := by
  obtain ⟨p, hp, hcategory⟩ := ha.needed.predicate
  refine ⟨⟨⟨p, predicates_of_categoryReduced h hp, hcategory⟩, ha.needed.admitted⟩, ?_⟩
  rw [← kleene_of_categoryReduced htyped (fun p _ hpc b hb => ?_) h]
  · exact ha.undecided
  · exact valuesBefore_of_isBefore (by rw [hpc]; exact hbefore) hb

/-! ## 3. The states between two categories -/

/-- A state in which some categories are still to come: nothing was asked that they ask for, and only
predicates of theirs are left, in a tree that those before them did not decide. -/
structure Frame.Awaits (setting : Setting) (entity : Entity) (cs : List Category) (frame : Frame) :
    Prop where
  faithful : frame.Faithful setting entity
  recorded : frame.Recorded
  ascending : Ascending frame.phase cs
  unasked : ∀ a ∈ frame.accesses, a.category ∉ cs
  typed : ∀ p ∈ frame.expr.predicates, p.WellTyped
  categories : ∀ p ∈ frame.expr.predicates, p.category ∈ cs
  undecided : cs.head? ≠ some .name → frame.expr.Open fun _ => True

theorem Frame.awaits_initial {e : Expr} (htyped : ∀ p ∈ e.predicates, p.WellTyped) :
    Frame.Awaits setting entity categories { expr := e } where
  faithful := Frame.faithful_initial e
  recorded := Frame.recorded_initial e
  ascending := ascending_categories
  unasked := nofun
  typed := htyped
  categories p _ := by cases p.category <;> decide
  undecided h := absurd rfl h

namespace Frame.Awaits

variable {c : Category} {rest : List Category} {frame frame' : Frame} {e : Expr}

theorem isDue (h : frame.Awaits setting entity (c :: rest)) {a : Access} (hac : a.category = c)
    (hneeded : a.IsNeeded entity.path frame.expr) : a.IsDue setting entity frame.expr := by
  -- nothing is asked for to decide by the path, so this is not the first category
  have hname : (c :: rest).head? ≠ some .name := by
    rw [← hac]
    cases a <;> simp [Access.category]
  refine ⟨hneeded, ?_⟩
  rw [hac]
  exact kleene_valuesBefore h.ascending (h.undecided hname) h.categories

/-- The next category asks for what is due. -/
theorem asks (h : frame.Awaits setting entity (c :: rest)) :
    AsksFrom (fun a => a.category = c ∧ a.IsDue setting entity frame.expr)
      { frame with phase := .pending c } (resolveCategory setting entity c frame.expr) := by
  have hentered : Frame.Recorded { frame with phase := .pending c } :=
    ⟨h.recorded.nodup, h.recorded.metadata, h.recorded.documents⟩
  have hunasked : ∀ a ∈ frame.accesses, a.category ≠ c := fun a ha hac =>
    h.unasked a ha (by rw [hac]; exact List.mem_cons_self)
  have hcontent : c = .content → ∃ p ∈ frame.expr.predicates, p.category = .content := by
    rintro rfl
    obtain ⟨p, hp, -⟩ := (h.undecided (by simp)).exists_predicate
    exact ⟨p, hp, h.ascending.eq_content (h.categories p hp)⟩
  refine (asksFrom_resolveCategory hentered hunasked h.typed hcontent).mono fun a ha => ?_
  exact ⟨ha.1, h.isDue ha.1 ha.2⟩

/-- The next category answers as it does without a state. -/
theorem reduced (h : frame.Awaits setting entity (c :: rest))
    (hrun : (resolveCategory setting entity c frame.expr).run { frame with phase := .pending c } =
      (.ok e, frame')) :
    categoryReduced setting entity c frame.expr = .ok e ∧ frame'.Faithful setting entity ∧
      frame'.phase = .pending c := by
  have hentered : Frame.Faithful setting entity { frame with phase := .pending c } :=
    ⟨h.faithful.metadata, h.faithful.documents⟩
  obtain ⟨hanswer, hstate⟩ := Answers.resolveCategory c frame.expr _ hentered
  rw [hrun] at hanswer hstate
  exact ⟨hanswer.symm, hstate e hanswer.symm⟩

/-- What the next category leaves undecided awaits the others. -/
theorem next (h : frame.Awaits setting entity (c :: rest))
    (hrun : (resolveCategory setting entity c frame.expr).run { frame with phase := .pending c } =
      (.ok e, frame')) (hknown : e.known? = none) :
    Frame.Awaits setting entity rest { frame' with expr := e } := by
  obtain ⟨hreduced, hfaithful, hphase⟩ := h.reduced hrun
  obtain ⟨hasked, hrecorded⟩ := h.asks
  rw [hrun] at hasked hrecorded
  have hremembered := hrecorded e rfl
  have hsubset := predicates_of_categoryReduced hreduced
  refine ⟨⟨hfaithful.metadata, hfaithful.documents⟩,
    ⟨hremembered.nodup, hremembered.metadata, hremembered.documents⟩, h.ascending.tail hphase, ?_,
    fun p hp => h.typed p (hsubset hp), ?_, fun _ => open_of_categoryReduced hreduced hknown⟩
  · intro a ha hmem
    cases hasked.allowed a ha with
    | inl hbefore => exact h.unasked a hbefore (List.mem_cons_of_mem c hmem)
    | inr hnow => exact h.ascending.not_mem (by rw [← hnow.1]; exact hmem)
  · intro p hp
    exact List.mem_of_ne_of_mem (category_of_categoryReduced h.typed hreduced p hp)
      (h.categories p (hsubset hp))

end Frame.Awaits

/-- Categories ask for something only while those before it do not decide the tree. -/
theorem asked_resolveAll {cs : List Category} {frame : Frame}
    (h : frame.Awaits setting entity cs) :
    Asked (Access.IsDue setting entity frame.expr) frame
      ((resolveAll setting entity cs).run frame).2 := by
  induction cs generalizing frame with
  | nil => exact .same h.recorded rfl
  | cons c rest ih =>
    have hasked := (h.asks.mono fun a ha => ha.2).asked
    rw [resolveAll_cons_run (h.ascending.1 c List.mem_cons_self)]
    rcases hrun : (resolveCategory setting entity c frame.expr).run
      { frame with phase := .pending c } with ⟨fault | e, frame'⟩
    · rw [hrun] at hasked
      exact ⟨hasked.nodup, hasked.allowed⟩
    · rw [hrun] at hasked
      obtain ⟨hreduced, -, hphase⟩ := h.reduced hrun
      dsimp only
      cases hknown : e.known? with
      | some b =>
        have hentry : ({ frame' with expr := e } : Frame).phase = .pending c := hphase
        show Asked _ _ ((conclude c b).run { frame' with expr := e }).2
        rw [conclude_run hentry]
        exact ⟨hasked.nodup, hasked.allowed⟩
      | none =>
        have hnext := h.next hrun hknown
        have hlater := ih hnext
        refine ⟨hlater.nodup, fun a ha => ?_⟩
        cases hlater.allowed a ha with
        | inl hfirst => exact hasked.allowed a hfirst
        | inr hdue =>
          -- what is asked for later was due already now
          obtain ⟨p, hp, hcategory⟩ := hdue.needed.predicate
          refine .inr (hdue.of_categoryReduced h.typed hreduced (h.ascending.isBefore ?_))
          rw [← hcategory]
          exact hnext.categories p hp

/-! ## 4. The whole evaluation -/

/-- An evaluation asks for nothing that is more expensive than what decides the query.  It asks for
nothing twice, for documents only in a format of the path, and only for what a predicate of the query
needs. -/
theorem evaluate_lazy {clock : Clock} {query : String} {e : Expr}
    (h : parse stack clock query = .ok e) (setting : Setting) (entity : Entity) :
    let asked := (e.evaluate setting entity).2.accesses
    (∀ c, (e.kleene (valuesBefore setting entity c)).isSome = true →
      ∀ a ∈ asked, a.category.isBefore c = true) ∧
    asked.Nodup ∧
    (∀ format, .documents format ∈ asked → format.admits entity.path = true) ∧
    ∀ a ∈ asked, ∃ p ∈ e.predicates, p.category = a.category := by
  intro asked
  have hasked : Asked (Access.IsDue setting entity e) { expr := e } (e.evaluate setting entity).2 :=
    asked_resolveAll (Frame.awaits_initial (wellTyped_of_parse h))
  have hdue : ∀ a ∈ asked, a.IsDue setting entity e := fun a ha =>
    (hasked.allowed a ha).resolve_left nofun
  refine ⟨fun c hc a ha => ?_, hasked.nodup, fun format hf => (hdue _ hf).needed.admitted,
    fun a ha => (hdue a ha).needed.predicate⟩
  cases hbefore : a.category.isBefore c with
  | true => rfl
  | false =>
    -- what is known before a category is known before all later ones
    obtain ⟨b, hb⟩ := Option.isSome_iff_exists.1 hc
    have hlater := e.kleene_mono (fun p b => valuesBefore_mono hbefore) b hb
    rw [(hdue a ha).undecided] at hlater
    cases hlater

/-- A file whose size decides: its content is not asked for. -/
theorem evaluate_lazy_size :
    let entity : Entity := {
      path := "a.txt"
      metadata := .ok { type := .file, size := some 1 }
      documents := fun _ _ => .ok []
      content := fun _ => ⟨[[97]], none⟩ }
    let e : Expr := .and [.pred ⟨.content, some .contains, .content (.contains "b")⟩,
      .pred ⟨.size, some .gt, .number 1⟩]
    parse (.ofDepth 9) ⟨.fixed 0 0, .fixed 0⟩ "content contains b AND size > 1" = .ok e ∧
      e.kleene (valuesBefore {} entity .content) = some false ∧
      .content ∉ (e.evaluate {} entity).2.accesses := by
  intro entity e
  have hparse : parse (.ofDepth 9) ⟨.fixed 0 0, .fixed 0⟩ "content contains b AND size > 1" = .ok e := by
    with_unfolding_all rfl
  have hvalue : e.kleene (valuesBefore {} entity .content) = some false := by
    with_unfolding_all rfl
  refine ⟨hparse, hvalue, fun hmem => ?_⟩
  have hbefore := (evaluate_lazy hparse {} entity).1 .content (by rw [hvalue]; rfl) _ hmem
  cases hbefore

end FileQuery.Query
