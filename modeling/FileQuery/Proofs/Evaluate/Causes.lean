import FileQuery.Proofs.Evaluate.Progress

/-!
# Why evaluations fail

An evaluation that comes to a verdict comes to the truth value of the query, in which a predicate is
false if what it depends on failed.  An evaluation that fails has a cause: an answer of the entity that
is not expected where it is asked for, or a value in a document without a text.
-/

namespace FileQuery.Query

variable {setting : Setting} {entity : Entity} {e : Expr} {p : Predicate} {fault : EvaluationFault}

/-! ## 1. The values of predicates -/

def isTrue : Except EvaluationFault (Option Bool) → Bool
  | .ok (some b) => b
  | _ => false

def documentValue (setting : Setting) (entity : Entity) (m : Document.Matcher) : Bool :=
  m.format.admits entity.path &&
    match entity.documents m.format setting.config.maxDocumentSize with
    | .ok roots => isTrue (documentVerdict setting m roots)
    | .error _ => false

/-- Whether the content satisfies a condition; if it breaks off, as far as the chunks before tell. -/
def contentValue (setting : Setting) (entity : Entity) (m : Content.Matcher) : Bool :=
  match contentOutcome setting entity m with
  | .ok b => b
  | .error _ => false

/-- The value of a predicate, which is false where what it depends on failed. -/
def Predicate.valueAt (setting : Setting) (entity : Entity) (p : Predicate) : Bool :=
  match p.category with
  | .name => isTrue (nameAnswer entity p)
  | .metadata =>
    match entity.metadata with
    | .ok m => isTrue (metadataVerdict setting p m)
    | .error _ => false
  | .structured =>
    match p.operand with
    | .document m => documentValue setting entity m
    | _ => false
  | .content =>
    match p.contentMatcher? with
    | some m => contentValue setting entity m
    | none => false

theorem isTrue_metadataAnswer (h : p.category = .metadata) {b : Bool}
    (hb : metadataAnswer setting entity p = .ok (some b)) : p.valueAt setting entity = b := by
  rw [metadataAnswer, if_neg (by simp [h])] at hb
  unfold metadataOf at hb
  rw [Predicate.valueAt, h]
  cases hmetadata : entity.metadata with
  | ok m =>
    rw [hmetadata] at hb
    have hverdict : metadataVerdict setting p m = .ok (some b) := hb
    show isTrue (metadataVerdict setting p m) = b
    rw [hverdict]
    rfl
  | error fault =>
    rw [hmetadata] at hb
    cases fault <;> cases hb
    rfl

theorem documentValue_of_documentAnswer {m : Document.Matcher} (hm : p.operand = .document m)
    {b : Bool} (hb : documentAnswer setting entity p = .ok (some b)) :
    documentValue setting entity m = b := by
  rw [documentAnswer, hm] at hb
  obtain ⟨answer, hanswer, hb⟩ := bind_eq_ok.1 hb
  unfold documentsOf at hanswer
  unfold documentValue
  -- a path of another format has no documents, and the value is false
  cases hadmits : m.format.admits entity.path with
  | false =>
    rw [hadmits, Bool.not_false, if_pos rfl] at hanswer
    cases hanswer
    cases hb
    rfl
  | true =>
    rw [hadmits, Bool.not_true, if_neg Bool.false_ne_true] at hanswer
    cases hdocuments : entity.documents m.format setting.config.maxDocumentSize with
    | ok roots =>
      rw [hdocuments] at hanswer
      cases hanswer
      have hverdict : documentVerdict setting m roots = .ok (some b) := hb
      show isTrue (documentVerdict setting m roots) = b
      rw [hverdict]
      rfl
    | error fault =>
      rw [hdocuments] at hanswer
      cases fault <;> cases hanswer <;> cases hb <;> rfl

theorem contentValue_of_contentAlone {m : Content.Matcher} {b : Bool}
    (hb : contentAlone setting entity m = .ok b) : contentValue setting entity m = b := by
  rw [contentAlone_eq] at hb
  unfold contentValue
  cases houtcome : contentOutcome setting entity m with
  | ok b' =>
    rw [houtcome] at hb
    cases hb
    rfl
  | error fault =>
    rw [houtcome] at hb
    cases fault <;> cases hb
    rfl

/-- What is found out of a predicate alone is its value. -/
theorem valueAt_of_alone (hp : p.WellTyped) {b : Bool}
    (hb : p.alone setting entity = .ok (some b)) : p.valueAt setting entity = b := by
  cases hcategory : p.category with
  | name =>
    rw [Predicate.alone_name hcategory] at hb
    rw [Predicate.valueAt, hcategory]
    show isTrue (nameAnswer entity p) = b
    rw [hb]
    rfl
  | metadata =>
    rw [Predicate.alone_metadata hcategory] at hb
    exact isTrue_metadataAnswer hcategory hb
  | structured =>
    rw [Predicate.alone_structured hcategory] at hb
    obtain ⟨m, hm⟩ := hp.exists_document hcategory
    rw [Predicate.valueAt, hcategory, hm]
    exact documentValue_of_documentAnswer hm hb
  | content =>
    obtain ⟨m, hm⟩ := contentMatcher_of_category hp hcategory
    rw [Predicate.alone_content hcategory hm] at hb
    obtain ⟨b', hb', hsame⟩ := map_eq_ok.1 hb
    cases hsame
    rw [Predicate.valueAt, hcategory, hm]
    exact contentValue_of_contentAlone hb'

/-! ## 2. Causes -/

/-- What an evaluation fails for: faults of the entity's answers that are not expected of them, and
texts that are missing for a reason that is not foreseen. -/
inductive Cause (setting : Setting) (entity : Entity) (e : Expr) : EvaluationFault → Prop
  | metadata {p : Predicate} {f : AccessFault} : p ∈ e.predicates → p.category = .metadata →
      entity.metadata = .error f → (∀ u, f ≠ .unavailable u) → Cause setting entity e (.access f)
  | documents {p : Predicate} {m : Document.Matcher} {f : AccessFault} : p ∈ e.predicates →
      p.operand = .document m → m.format.admits entity.path = true →
      entity.documents m.format setting.config.maxDocumentSize = .error f →
      (∀ u, f ≠ .unavailable u) → (∀ u, f ≠ .unusable u) → Cause setting entity e (.access f)
  | text {p : Predicate} {m : Document.Matcher} {roots : List Document.Root}
      {fault : Document.TextFault} : p ∈ e.predicates → p.operand = .document m →
      entity.documents m.format setting.config.maxDocumentSize = .ok roots →
      m.holds setting.textLimit roots = .error fault → fault.isForeseen = false →
      Cause setting entity e (.text fault)
  | content {p : Predicate} {f : AccessFault} : p ∈ e.predicates → p.category = .content →
      (entity.content setting.config.chunkSize).fault = some f → (∀ u, f ≠ .unavailable u) →
      Cause setting entity e (.access f)

theorem Cause.mono {e' : Expr} (hsubset : e'.predicates ⊆ e.predicates)
    (h : Cause setting entity e' fault) : Cause setting entity e fault := by
  cases h with
  | metadata hp hcategory hf hne => exact .metadata (hsubset hp) hcategory hf hne
  | documents hp hm hadmits hf hne hne' => exact .documents (hsubset hp) hm hadmits hf hne hne'
  | text hp hm hroots hf hforeseen => exact .text (hsubset hp) hm hroots hf hforeseen
  | content hp hcategory hf hne => exact .content (hsubset hp) hcategory hf hne

theorem cause_of_metadataAnswer (hmem : p ∈ e.predicates) (hp : p.WellTyped)
    (hdated : p.category = .metadata → Dated setting.zone entity p)
    (h : metadataAnswer setting entity p = .error fault) : Cause setting entity e fault := by
  unfold metadataAnswer at h
  split at h
  · cases h
  · next hother =>
    have hcategory : p.category = .metadata := by simpa using hother
    -- the metadata cannot be had, for nothing that is done with them fails
    rcases bind_eq_error.1 h with h | ⟨answer, hanswer, h⟩
    · unfold metadataOf at h
      split at h
      · cases h
      · cases h
      · next f hunavailable hf =>
        cases h
        exact .metadata hmem hcategory hf hunavailable
    · cases answer with
      | none => cases h
      | some m =>
        have hverdict : metadataVerdict setting p m = .error fault := h
        obtain ⟨value, hvalue⟩ :=
          exists_metadataVerdict hp (hdated hcategory) (metadata_of_metadataOf hanswer)
        rw [hvalue] at hverdict
        cases hverdict

theorem cause_of_documentAnswer (hmem : p ∈ e.predicates)
    (h : documentAnswer setting entity p = .error fault) : Cause setting entity e fault := by
  unfold documentAnswer at h
  split at h
  · next m hm =>
    -- the documents cannot be had, or a value in them has no text
    rcases bind_eq_error.1 h with h | ⟨answer, hanswer, h⟩
    · unfold documentsOf at h
      split at h
      · cases h
      · next hadmits =>
        split at h
        · cases h
        · cases h
        · cases h
        · next f hunavailable hunusable hf =>
          cases h
          exact .documents hmem hm (by simpa using hadmits) hf hunavailable hunusable
    · cases answer with
      | none => cases h
      | some roots =>
        have hverdict : documentVerdict setting m roots = .error fault := h
        unfold documentVerdict at hverdict
        split at hverdict
        · cases hverdict
        · next f hf =>
          split at hverdict
          · cases hverdict
          · next hforeseen =>
            cases hverdict
            exact .text hmem hm (documents_of_documentsOf hanswer) hf (by simpa using hforeseen)
  · cases h

/-- A category fails for a cause. -/
theorem cause_of_categoryReduced {c : Category} (htyped : ∀ p ∈ e.predicates, p.WellTyped)
    (hdated : ∀ p ∈ e.predicates, p.category = .metadata → Dated setting.zone entity p)
    (hcontent : c = .content →
      (∃ p, p ∈ e.predicates) ∧ ∀ p ∈ e.predicates, p.category = .content)
    (h : categoryReduced setting entity c e = .error fault) : Cause setting entity e fault := by
  -- folding fails where one of the predicates does, and the content as a whole
  cases c with
  | name =>
    obtain ⟨p, hp, hfault⟩ := e.error_of_reduce h
    obtain ⟨answer, hanswer⟩ : ∃ answer, nameAnswer entity p = .ok answer :=
      exists_nameAnswer (htyped p hp)
    rw [hanswer] at hfault
    cases hfault
  | metadata =>
    obtain ⟨p, hp, hfault⟩ := e.error_of_reduce h
    exact cause_of_metadataAnswer hp (htyped p hp) (hdated p hp) hfault
  | structured =>
    obtain ⟨p, hp, hfault⟩ := e.error_of_reduce h
    exact cause_of_documentAnswer hp hfault
  | content =>
    obtain ⟨⟨p, hp⟩, hcategories⟩ := hcontent rfl
    obtain ⟨f, hf, rfl, hunavailable⟩ :=
      (asksContent_of_typed htyped hcategories).error_of_contentReduced h
    exact .content hp (hcategories p hp) hf hunavailable

/-! ## 3. Every evaluation -/

/-- An evaluation comes to the truth value of the query, or fails for a cause. -/
theorem verdict_or_cause (htyped : ∀ p ∈ e.predicates, p.WellTyped)
    (hdated : ∀ p ∈ e.predicates, p.category = .metadata → Dated setting.zone entity p) :
    (∃ r frame, e.evaluate setting entity = (.ok r, frame) ∧
      (r.verdict = .accepted ↔ e.holds (·.valueAt setting entity) = true)) ∨
    ∃ fault frame, e.evaluate setting entity = (.error fault, frame) ∧
      Cause setting entity e fault := by
  have hfirst := evaluate_eq_decideFrom setting entity e
  rcases hrun : e.evaluate setting entity with ⟨fault | r, frame⟩
  · rw [hrun] at hfirst
    obtain ⟨c, e', hsubset, hcontent, hfault⟩ := error_of_categories htyped hfirst.symm
    have hcause := cause_of_categoryReduced (fun p hp => htyped p (hsubset hp))
      (fun p hp => hdated p (hsubset hp)) hcontent hfault
    exact .inr ⟨fault, frame, rfl, hcause.mono hsubset⟩
  · rw [hrun] at hfirst
    -- what the predicates are found to be alone are their values
    obtain ⟨b, hverdict, hvalue⟩ := kleene_of_decideFrom htyped
      (fun p hp b hb => congrArg some (valueAt_of_alone (htyped p hp) hb)) hfirst.symm
    rw [Expr.kleene_some] at hvalue
    refine .inl ⟨r, frame, rfl, ?_⟩
    rw [hverdict, Option.some.inj hvalue]
    cases b <;> decide

end FileQuery.Query
