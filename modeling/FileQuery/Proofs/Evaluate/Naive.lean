import FileQuery.Proofs.Evaluate.Content
import FileQuery.Proofs.Query.Typing

/-!
# Evaluating in phases is evaluating naively

An evaluation decides categories one after the other, skips operands and shares scanners.  Its verdict
is nevertheless the truth value of the whole tree in which every predicate has the value that it has
on its own, looked at without the others.
-/

namespace FileQuery.Query

variable {stack : Pattern.Stack}

variable {setting : Setting} {entity : Entity}

/-! ## 1. A predicate on its own -/

/-- What is found out of a predicate alone: its category is asked, from an initial state on, or a
single scanner looks for its condition. -/
def Predicate.alone (setting : Setting) (entity : Entity) (p : Predicate) :
    Except EvaluationFault (Option Bool) :=
  match p.category with
  | .name => ((resolveName entity p).run { expr := .pred p }).1
  | .metadata => ((resolveMetadata setting entity p).run { expr := .pred p }).1
  | .structured => ((resolveDocument setting entity p).run { expr := .pred p }).1
  | .content =>
    match p.contentMatcher? with
    | some m => (contentAlone setting entity m).map some
    | none => .ok none

theorem Predicate.alone_name {p : Predicate} (h : p.category = .name) :
    p.alone setting entity = nameAnswer entity p := by
  rw [alone, h]
  have hanswers : Answers setting entity (resolveName entity p) (nameAnswer entity p) :=
    .resolveName p
  exact (hanswers _ (Frame.faithful_initial _)).1

theorem Predicate.alone_metadata {p : Predicate} (h : p.category = .metadata) :
    p.alone setting entity = metadataAnswer setting entity p := by
  rw [alone, h]
  exact (Answers.resolveMetadata p _ (Frame.faithful_initial _)).1

theorem Predicate.alone_structured {p : Predicate} (h : p.category = .structured) :
    p.alone setting entity = documentAnswer setting entity p := by
  rw [alone, h]
  exact (Answers.resolveDocument p _ (Frame.faithful_initial _)).1

theorem Predicate.alone_content {p : Predicate} {m : Content.Matcher} (h : p.category = .content)
    (hm : p.contentMatcher? = some m) :
    p.alone setting entity = (contentAlone setting entity m).map some := by
  rw [alone, h, hm]

/-! ## 2. Answers go with categories -/

theorem category_of_nameValue {selector : Selector} {path : String} {value : NameValue}
    (h : selector.nameValue? path = some value) : selector.category = .name := by
  cases selector <;> first | rfl | cases h

theorem exists_nameValue {selector : Selector} (h : selector.category = .name) (path : String) :
    ∃ value, selector.nameValue? path = some value := by
  cases selector <;> first | exact ⟨_, rfl⟩ | cases h

theorem category_of_nameAnswer {p : Predicate} {b : Bool} (h : nameAnswer entity p = .ok (some b)) :
    p.category = .name := by
  rw [nameAnswer] at h
  split at h
  · next s hvalue => exact category_of_nameValue hvalue
  · next n hvalue => exact category_of_nameValue hvalue
  · cases h

theorem category_of_metadataAnswer {p : Predicate} {b : Bool}
    (h : metadataAnswer setting entity p = .ok (some b)) : p.category = .metadata := by
  rw [metadataAnswer] at h
  split at h
  · cases h
  · next hcategory => simpa using hcategory

theorem category_of_document {p : Predicate} {m : Document.Matcher} (hp : p.WellTyped)
    (h : p.operand = .document m) : p.category = .structured := by
  cases hp with
  | document m => rfl
  | _ => cases h

theorem category_of_documentAnswer {p : Predicate} {b : Bool} (hp : p.WellTyped)
    (h : documentAnswer setting entity p = .ok (some b)) : p.category = .structured := by
  rw [documentAnswer] at h
  split at h
  · next m hm => exact category_of_document hp hm
  · cases h

theorem category_of_contentMatcher {p : Predicate} {m : Content.Matcher} (hp : p.WellTyped)
    (h : p.contentMatcher? = some m) : p.category = .content := by
  cases hp with
  | content m => rfl
  | _ => cases h

theorem comparisonAnswer_ne_none (r : Except CompareFault Bool) : comparisonAnswer r ≠ .ok none := by
  cases r <;> simp [comparisonAnswer]

theorem nameAnswer_ne_none {p : Predicate} (h : p.category = .name) :
    nameAnswer entity p ≠ .ok none := by
  unfold nameAnswer
  split
  · exact comparisonAnswer_ne_none _
  · exact comparisonAnswer_ne_none _
  · next hnone =>
    obtain ⟨value, hvalue⟩ := exists_nameValue h entity.path
    rw [hvalue] at hnone
    cases hnone

theorem metadataVerdict_ne_none (p : Predicate) (m : Metadata) :
    metadataVerdict setting p m ≠ .ok none := by
  unfold metadataVerdict
  split
  · exact comparisonAnswer_ne_none _
  · split
    · exact comparisonAnswer_ne_none _
    · simp
  · split
    · exact comparisonAnswer_ne_none _
    · simp

theorem metadataAnswer_ne_none {p : Predicate} (h : p.category = .metadata) :
    metadataAnswer setting entity p ≠ .ok none := by
  rw [metadataAnswer, if_neg (by simp [h])]
  intro hnone
  obtain ⟨answer, -, hanswer⟩ := bind_eq_ok.1 hnone
  cases answer with
  | none => cases hanswer
  | some m => exact metadataVerdict_ne_none p m hanswer

theorem documentVerdict_ne_none (m : Document.Matcher) (roots : List Document.Root) :
    documentVerdict setting m roots ≠ .ok none := by
  unfold documentVerdict
  split
  · simp
  · split <;> simp

theorem documentAnswer_ne_none {p : Predicate} (hp : p.WellTyped) (h : p.category = .structured) :
    documentAnswer setting entity p ≠ .ok none := by
  obtain ⟨m, hm⟩ := hp.exists_document h
  rw [documentAnswer, hm]
  intro hnone
  obtain ⟨answer, -, hanswer⟩ := bind_eq_ok.1 hnone
  cases answer with
  | none => cases hanswer
  | some roots => exact documentVerdict_ne_none m roots hanswer

theorem contentMatcher_of_category {p : Predicate} (hp : p.WellTyped) (h : p.category = .content) :
    ∃ m, p.contentMatcher? = some m := by
  obtain ⟨m, hm⟩ := hp.exists_content h
  exact ⟨m, by rw [Predicate.contentMatcher?, hm]⟩

/-! ## 3. One category keeps the value -/

/-- The predicates that are left after a category are predicates of the tree. -/
theorem predicates_of_categoryReduced {c : Category} {e e' : Expr}
    (h : categoryReduced setting entity c e = .ok e') : e'.predicates ⊆ e.predicates := by
  cases c with
  | content =>
    intro p hp
    have hknown := known_of_contentReduced h
    cases e' with
    | known b => cases hp
    | _ => cases hknown
  | _ => exact fun p hp => ((Expr.folded_of_reduce h).of_mem_predicates p hp).1

/-- A category keeps the value of a tree whose predicates of that category have the values they have
on their own. -/
theorem kleene_of_categoryReduced {c : Category} {e e' : Expr} {w : Predicate → Option Bool}
    (htyped : ∀ p ∈ e.predicates, p.WellTyped)
    (hw : ∀ p ∈ e.predicates, p.category = c → ∀ b, p.alone setting entity = .ok (some b) →
      w p = some b)
    (h : categoryReduced setting entity c e = .ok e') : e'.kleene w = e.kleene w := by
  -- what a category finds out of a predicate shows that the predicate is of that category
  cases c with
  | name =>
    refine Expr.kleene_of_reduce h fun p hp b hb => ?_
    have hcategory := category_of_nameAnswer hb
    exact hw p hp hcategory b (by rw [Predicate.alone_name hcategory, hb])
  | metadata =>
    refine Expr.kleene_of_reduce h fun p hp b hb => ?_
    have hcategory := category_of_metadataAnswer hb
    exact hw p hp hcategory b (by rw [Predicate.alone_metadata hcategory, hb])
  | structured =>
    refine Expr.kleene_of_reduce h fun p hp b hb => ?_
    have hcategory := category_of_documentAnswer (htyped p hp) hb
    exact hw p hp hcategory b (by rw [Predicate.alone_structured hcategory, hb])
  | content =>
    refine kleene_of_contentReduced h fun p hp m b hm hb => ?_
    have hcategory := category_of_contentMatcher (htyped p hp) hm
    exact hw p hp hcategory b (by rw [Predicate.alone_content hcategory hm, hb]; rfl)

/-! ## 4. The whole evaluation -/

theorem kleene_of_decideFrom {cs : List Category} {e : Expr} {r : Resolution}
    {w : Predicate → Option Bool} (htyped : ∀ p ∈ e.predicates, p.WellTyped)
    (hw : Agree (Predicate.alone setting entity) w e.predicates)
    (h : decideFrom setting entity cs e = .ok r) :
    ∃ b, r.verdict = .ofBool b ∧ e.kleene w = some b := by
  induction cs generalizing e with
  | nil => cases h
  | cons c rest ih =>
    -- what is left of the tree has its value, and only predicates of it
    obtain ⟨e', he, h⟩ := bind_eq_ok.1 h
    have hvalue := kleene_of_categoryReduced htyped (fun p hp _ => hw p hp) he
    have hsubset := predicates_of_categoryReduced he
    split at h
    · next b hknown =>
      cases h
      exact ⟨b, rfl, by rw [← hvalue, Expr.kleene_of_known w hknown]⟩
    · rw [← hvalue]
      exact ih (fun p hp => htyped p (hsubset hp)) (fun p hp => hw p (hsubset hp)) h

/-- Every predicate of a typed tree is decided by its category, if nothing fails. -/
theorem alone_ne_none {p : Predicate} (hp : p.WellTyped) : p.alone setting entity ≠ .ok none := by
  cases hcategory : p.category with
  | name =>
    rw [Predicate.alone_name hcategory]
    exact nameAnswer_ne_none hcategory
  | metadata =>
    rw [Predicate.alone_metadata hcategory]
    exact metadataAnswer_ne_none hcategory
  | structured =>
    rw [Predicate.alone_structured hcategory]
    exact documentAnswer_ne_none hp hcategory
  | content =>
    obtain ⟨m, hm⟩ := contentMatcher_of_category hp hcategory
    rw [Predicate.alone_content hcategory hm]
    intro hnone
    obtain ⟨b, -, hb⟩ := map_eq_ok.1 hnone
    cases hb

/-- An evaluation that ends accepts an entity just when the query holds, with the values that its
predicates have on their own; predicates without such a value do not matter then. -/
theorem evaluate_eq_naive {clock : Clock} {query : String} {e : Expr}
    (h : parse stack clock query = .ok e) {r : Resolution} {frame : Frame}
    (hr : e.evaluate setting entity = (.ok r, frame)) {v : Predicate → Bool}
    (hv : ∀ p ∈ e.predicates, ∀ b, p.alone setting entity = .ok (some b) → v p = b) :
    (∀ p ∈ e.predicates, p.alone setting entity ≠ .ok none) ∧
      (r.verdict = .accepted ↔ e.holds v = true) := by
  have htyped := wellTyped_of_parse h
  have hdecide : decideFrom setting entity categories e = .ok r := by
    rw [← evaluate_eq_decideFrom, hr]
  -- the values given are values in the sense of three, with none missing
  obtain ⟨b, hverdict, hvalue⟩ := kleene_of_decideFrom htyped
    (fun p hp b hb => congrArg some (hv p hp b hb)) hdecide
  rw [Expr.kleene_some] at hvalue
  refine ⟨fun p hp => alone_ne_none (htyped p hp), ?_⟩
  rw [hverdict, Option.some.inj hvalue]
  cases b <;> decide

/-- A file without metadata: its size decides nothing, and its content is read to the second chunk. -/
theorem evaluate_eq_naive_unreadable :
    let entity : Entity := {
      path := "a.txt"
      metadata := .error (.unavailable ⟨.missing, ""⟩)
      documents := fun _ _ => .ok []
      content := fun _ => ⟨[[97], [98], [99]], none⟩ }
    let e : Expr := .or [.pred ⟨.size, some .gt, .number 1⟩,
      .pred ⟨.content, some .contains, .content (.contains "b")⟩]
    parse (.ofDepth 9) ⟨.fixed 0 0, .fixed 0⟩ "size > 1 OR content contains b" = .ok e ∧
      (e.evaluate {} entity).1 = .ok ⟨.accepted, .content⟩ ∧
      e.holds (fun p => p.category == .content) = true := by
  intro entity e
  have hparse : parse (.ofDepth 9) ⟨.fixed 0 0, .fixed 0⟩ "size > 1 OR content contains b" = .ok e := by
    with_unfolding_all rfl
  have hverdict : (e.evaluate {} entity).1 = .ok ⟨.accepted, .content⟩ := by
    with_unfolding_all rfl
  have hsize : Predicate.alone {} entity ⟨.size, some .gt, .number 1⟩ = .ok (some false) := by
    with_unfolding_all rfl
  have hcontent : Predicate.alone {} entity
      ⟨.content, some .contains, .content (.contains "b")⟩ = .ok (some true) := by
    with_unfolding_all rfl
  have hvalues : ∀ p ∈ e.predicates, ∀ b, p.alone {} entity = .ok (some b) →
      (p.category == .content) = b := by
    intro p hp b hb
    simp only [e, Expr.predicates, predicatesOf, List.mem_append, List.mem_singleton,
      List.not_mem_nil, or_false] at hp
    rcases hp with rfl | rfl
    · rw [hsize] at hb
      cases hb
      rfl
    · rw [hcontent] at hb
      cases hb
      rfl
  have hr : e.evaluate {} entity = (.ok ⟨.accepted, .content⟩, (e.evaluate {} entity).2) := by
    rw [← hverdict]
  exact ⟨hparse, hverdict, (evaluate_eq_naive hparse hr hvalues).2.1 rfl⟩

end FileQuery.Query
