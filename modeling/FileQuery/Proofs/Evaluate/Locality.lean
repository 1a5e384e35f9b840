import FileQuery.Proofs.Evaluate.Causes

/-!
# What fails, fails locally

An entity may fail to tell its metadata, its documents in a format or its content, and the content may
break off anywhere.  The evaluation then goes on, and the predicates that depend on what failed are
false.  It fails itself only where the metadata or the content are said to be unusable, as documents may
be, or where a value in a document has no text for a reason that is not foreseen.
-/

namespace FileQuery.Query

variable {stack : Pattern.Stack}

variable {setting : Setting} {entity : Entity} {e : Expr} {fault : EvaluationFault}

/-! ## 1. Entities that may fail -/

/-- The faults that every answer of an entity may be: something is unavailable, or unusable. -/
inductive IsFailure : AccessFault → Prop
  | unavailable (u : Unavailable) : IsFailure (.unavailable u)
  | unusable (u : Document.Unusable) : IsFailure (.unusable u)

/-- An entity that answers, or fails as it may; content may fail after any number of chunks. -/
structure Entity.FailsOrderly (entity : Entity) : Prop where
  metadata : ∀ fault, entity.metadata = .error fault → IsFailure fault
  documents : ∀ format size fault, entity.documents format size = .error fault → IsFailure fault
  content : ∀ size fault, (entity.content size).fault = some fault → IsFailure fault

/-! ## 2. How an evaluation can fail -/

/-- The ways in which a failure of an entity, or a value in its documents, is not kept local. -/
inductive Escapes (setting : Setting) (entity : Entity) (e : Expr) : EvaluationFault → Prop
  | metadata {p : Predicate} {u : Document.Unusable} : p ∈ e.predicates → p.category = .metadata →
      entity.metadata = .error (.unusable u) → Escapes setting entity e (.access (.unusable u))
  | content {p : Predicate} {u : Document.Unusable} : p ∈ e.predicates → p.category = .content →
      (entity.content setting.config.chunkSize).fault = some (.unusable u) →
      Escapes setting entity e (.access (.unusable u))
  | text {p : Predicate} {m : Document.Matcher} {roots : List Document.Root}
      {fault : Document.TextFault} : p ∈ e.predicates → p.operand = .document m →
      entity.documents m.format setting.config.maxDocumentSize = .ok roots →
      m.holds setting.textLimit roots = .error fault → fault.isForeseen = false →
      Escapes setting entity e (.text fault)

/-- Of an entity that fails as it may, causes are failures that escape. -/
theorem Cause.escapes (hentity : Entity.FailsOrderly entity) (h : Cause setting entity e fault) :
    Escapes setting entity e fault := by
  cases h with
  | metadata hp hcategory hf hunavailable =>
    cases hentity.metadata _ hf with
    | unavailable u => exact absurd rfl (hunavailable u)
    | unusable u => exact .metadata hp hcategory hf
  | documents hp hm hadmits hf hunavailable hunusable =>
    cases hentity.documents _ _ _ hf with
    | unavailable u => exact absurd rfl (hunavailable u)
    | unusable u => exact absurd rfl (hunusable u)
  | text hp hm hroots hf hforeseen => exact .text hp hm hroots hf hforeseen
  | content hp hcategory hf hunavailable =>
    cases hentity.content _ _ hf with
    | unavailable u => exact absurd rfl (hunavailable u)
    | unusable u => exact .content hp hcategory hf

/-! ## 3. Every evaluation -/

/-- Whatever fails, an evaluation ends with the truth value of the query in which the predicates that
depend on what failed are false, unless the failure escapes. -/
theorem evaluate_isLocal {clock : Clock} {query : String} (h : parse stack clock query = .ok e)
    (hentity : Entity.FailsOrderly entity)
    (hdated : ∀ p ∈ e.predicates, Dated setting.zone entity p) :
    (∃ r frame, e.evaluate setting entity = (.ok r, frame) ∧
      (r.verdict = .accepted ↔ e.holds (·.valueAt setting entity) = true)) ∨
    ∃ fault frame, e.evaluate setting entity = (.error fault, frame) ∧
      Escapes setting entity e fault := by
  refine (verdict_or_cause (wellTyped_of_parse h) fun p hp _ => hdated p hp).imp_right ?_
  rintro ⟨fault, frame, hrun, hcause⟩
  exact ⟨fault, frame, hrun, hcause.escapes hentity⟩

/-- Metadata that are missing and content that breaks off make the first predicate false and the
second, which is negated, as well. -/
theorem evaluate_isLocal_broken_off :
    let entity : Entity := {
      path := "a.txt"
      metadata := .error (.unavailable ⟨.missing, ""⟩)
      documents := fun _ _ => .ok []
      content := fun _ => ⟨[[97]], some (.unavailable ⟨.other, ""⟩)⟩ }
    let e : Expr := .or [.pred ⟨.size, some .gt, .number 1⟩,
      .not (.pred ⟨.content, some .contains, .content (.contains "b")⟩)]
    parse (.ofDepth 9) ⟨.fixed 0 0, .fixed 0⟩ "size > 1 OR NOT content contains b" = .ok e ∧
      Entity.FailsOrderly entity ∧ (∀ p ∈ e.predicates, Dated (.fixed 0) entity p) ∧
      (e.evaluate {} entity).1 = .ok ⟨.accepted, .content⟩ ∧
      e.holds (·.valueAt {} entity) = true := by
  intro entity e
  have hparse : parse (.ofDepth 9) ⟨.fixed 0 0, .fixed 0⟩
      "size > 1 OR NOT content contains b" = .ok e := by
    with_unfolding_all rfl
  have hentity : Entity.FailsOrderly entity :=
    ⟨fun _ h => by cases h; exact .unavailable _, fun _ _ _ h => (by cases h),
      fun _ _ h => by cases h; exact .unavailable _⟩
  have hdated : ∀ p ∈ e.predicates, Dated (.fixed 0) entity p := by
    intro p hp
    simp only [e, Expr.predicates, predicatesOf, List.mem_append, List.mem_singleton,
      List.not_mem_nil, or_false] at hp
    rcases hp with rfl | rfl <;>
      exact ⟨fun h => by simp [Predicate.op] at h, fun h => by simp [Predicate.op] at h⟩
  have hverdict : (e.evaluate {} entity).1 = .ok ⟨.accepted, .content⟩ := by
    with_unfolding_all rfl
  refine ⟨hparse, hentity, hdated, hverdict, ?_⟩
  rcases @evaluate_isLocal _ {} entity e _ _ hparse hentity hdated with
    ⟨r, frame, hr, hvalue⟩ | ⟨fault, frame, hr, -⟩
  · rw [hr] at hverdict
    cases hverdict
    exact hvalue.1 rfl
  · rw [hr] at hverdict
    cases hverdict

set_option maxRecDepth 2000 in
/-- A map with a date as a key, inside a pair, has no text, and the evaluation fails; so it does where
the metadata are said to be unusable. -/
theorem evaluate_escapes :
    let root : Document.Root := ⟨#[.map (.ofList [(.str "a", .node 1)]), .list [.node 2],
      .pair (.scalar (.str "k")) (.node 3),
      .map (.ofList [(.date ⟨2024, 1, 1⟩, .scalar (.str "v"))])], .node 0⟩
    let entity (fault : AccessFault) : Entity := {
      path := "a.yaml"
      metadata := .error fault
      documents := fun _ _ => .ok [root]
      content := fun _ => ⟨[], none⟩ }
    let m : Document.Matcher :=
      ⟨.yaml, [.field "a"], .compare .contains ⟨"x", .str "x", false⟩⟩
    let e : Expr := .or [.pred ⟨.size, some .gt, .number 1⟩,
      .pred ⟨.document .yaml, some .contains, .document m⟩]
    parse (.ofDepth 9) ⟨.fixed 0 0, .fixed 0⟩ "size > 1 OR yaml:.a contains x" = .ok e ∧
      (∀ fault, IsFailure fault → Entity.FailsOrderly (entity fault)) ∧
      (e.evaluate {} (entity (.unavailable ⟨.missing, ""⟩))).1 =
        .error (.text (.foreignKey "datetime.date")) ∧
      (e.evaluate {} (entity (.unusable ⟨.yaml, .parseError⟩))).1 =
        .error (.access (.unusable ⟨.yaml, .parseError⟩)) := by
  dsimp only
  refine ⟨by with_unfolding_all rfl, fun fault hfault => ⟨?_, nofun, nofun⟩,
    by with_unfolding_all rfl, by with_unfolding_all rfl⟩
  intro _ h
  cases h
  exact hfault

end FileQuery.Query
