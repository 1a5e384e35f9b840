import FileQuery.Proofs.Document.PlainText
import FileQuery.Proofs.Evaluate.Naive

/-!
# Typed queries do not go wrong

A query that was read has a verdict for every entity whose answers are foreseen: its comparisons all
apply, every category leaves only predicates of later ones, and the content decides what is left.
-/

namespace FileQuery.Query

variable {stack : Pattern.Stack}

variable {setting : Setting} {entity : Entity}

/-! ## 1. Comparisons apply -/

theorem exists_compareBy {op : Operator} (h : op ∈ [.eq, .ne, .gt, .ge, .lt, .le])
    (order : Ordering) : ∃ b, compareBy op order = .ok b := by
  simp only [List.mem_cons, List.not_mem_nil, or_false] at h
  rcases h with rfl | rfl | rfl | rfl | rfl | rfl <;> exact ⟨_, rfl⟩

theorem exists_compareText {p : Predicate} (hp : p.WellTyped) (h : p.selector.family = .string)
    (actual : String) : ∃ b, compareText p.op p.operand actual = .ok b := by
  cases hp with
  | text s hselector hop =>
    simp only [List.mem_cons, List.not_mem_nil, or_false] at hop
    rcases hop with rfl | rfl | rfl <;> exact ⟨_, rfl⟩
  | texts items => exact ⟨_, rfl⟩
  | pattern q hselector hop =>
    simp only [List.mem_cons, List.not_mem_nil, or_false] at hop
    rcases hop with rfl | rfl <;> exact ⟨_, rfl⟩
  | number n hselector | numbers items hselector | moment m hselector =>
    rw [hselector] at h
    cases h
  | _ => cases h

theorem exists_compareNumber {p : Predicate} (hp : p.WellTyped)
    (h : p.selector.family = .numeric) (actual : Nat) :
    ∃ b, compareNumber p.op p.operand actual = .ok b := by
  cases hp with
  | number n hselector hop =>
    obtain ⟨b, hb⟩ := exists_compareBy hop (compare actual n)
    refine ⟨b, ?_⟩
    rw [← hb]
    simp only [List.mem_cons, List.not_mem_nil, or_false] at hop
    rcases hop with rfl | rfl | rfl | rfl | rfl | rfl <;> rfl
  | numbers items => exact ⟨_, rfl⟩
  | text s hselector | texts items hselector | pattern q hselector | moment m hselector =>
    rw [hselector] at h
    cases h
  | _ => cases h

theorem exists_compareType {p : Predicate} (hp : p.WellTyped) (h : p.selector = .type)
    (actual : FileType) : ∃ b, compareType p.op p.operand actual = .ok b := by
  cases hp with
  | fileType t hop =>
    simp only [List.mem_cons, List.not_mem_nil, or_false] at hop
    rcases hop with rfl | rfl <;> exact ⟨_, rfl⟩
  | fileTypes items => exact ⟨_, rfl⟩
  | text s hselector | texts items hselector | pattern q hselector | number n hselector
  | numbers items hselector | moment m hselector =>
    cases h
    cases hselector
  | _ => cases h

theorem exists_compareMoment {p : Predicate} (hp : p.WellTyped)
    (h : p.selector.family = .temporal) {zone : Calendar.Zone} {actual : Calendar.Moment}
    (hactual : p.op = .eq ∨ p.op = .ne → ∃ date, actual.dateAt zone = .ok date)
    (hwanted : p.op = .eq ∨ p.op = .ne →
      ∀ m, p.operand = .moment m → ∃ date, m.dateAt zone = .ok date) :
    ∃ b, compareMoment zone p.op p.operand actual = .ok b := by
  cases hp with
  | moment m hselector hop =>
    simp only [compareMoment, compareMoments]
    split
    · next hequality =>
      simp only [Bool.or_eq_true, decide_eq_true_eq] at hequality
      -- only equality and its opposite need the dates of both moments
      obtain ⟨date, hdate⟩ := hactual hequality
      obtain ⟨wanted, hm⟩ := hwanted hequality m rfl
      simp only [hdate, hm]
      exact ⟨_, rfl⟩
    · exact exists_compareBy hop _
  | text s hselector | texts items hselector | pattern q hselector | number n hselector
  | numbers items hselector =>
    rw [hselector] at h
    cases h
  | _ => cases h

/-! ## 2. Entities whose answers are foreseen -/

/-- An entity that answers, with documents of lists and maps, or fails in a way that is foreseen:
metadata and content may be unavailable, documents may be unavailable or unusable. -/
structure Entity.Foreseen (entity : Entity) : Prop where
  metadata : ∀ fault, entity.metadata = .error fault → ∃ u, fault = .unavailable u
  plain : ∀ format size roots, entity.documents format size = .ok roots →
    ∀ root ∈ roots, root.IsPlain
  documents : ∀ format size fault, entity.documents format size = .error fault →
    (∃ u, fault = .unavailable u) ∨ ∃ u, fault = .unusable u
  content : ∀ size fault, (entity.content size).fault = some fault → ∃ u, fault = .unavailable u

/-- Where moments are compared by their dates, both have one in the local zone: that of the entity,
and that which the predicate names. -/
structure Dated (zone : Calendar.Zone) (entity : Entity) (p : Predicate) : Prop where
  actual : p.op = .eq ∨ p.op = .ne → ∀ m moment, entity.metadata = .ok m →
    Metadata.moment? m p.selector = some moment → ∃ date, moment.dateAt zone = .ok date
  wanted : p.op = .eq ∨ p.op = .ne → ∀ m, p.operand = .moment m → ∃ date, m.dateAt zone = .ok date

theorem Entity.Foreseen.exists_metadata (h : Entity.Foreseen entity) :
    ∃ answer, metadataOf entity = .ok answer :=
  exists_metadataOf h.metadata

theorem Entity.Foreseen.exists_documents (h : Entity.Foreseen entity) (format : Document.Format) :
    ∃ answer, documentsOf setting entity format = .ok answer :=
  exists_documentsOf h.documents format

/-- Metadata that an evaluation sees are metadata that the entity has. -/
theorem metadata_of_metadataOf {m : Metadata} (h : metadataOf entity = .ok (some m)) :
    entity.metadata = .ok m := by
  unfold metadataOf at h
  split at h
  · next hok =>
    cases h
    exact hok
  · cases h
  · cases h

/-- Documents that an evaluation sees are documents that the entity has. -/
theorem documents_of_documentsOf {format : Document.Format} {roots : List Document.Root}
    (h : documentsOf setting entity format = .ok (some roots)) :
    entity.documents format setting.config.maxDocumentSize = .ok roots := by
  unfold documentsOf at h
  split at h
  · cases h
  · split at h
    · next hroots =>
      cases h
      exact hroots
    all_goals cases h

/-! ## 3. Predicates are answered -/

theorem exists_comparisonAnswer {r : Except CompareFault Bool} (h : ∃ b, r = .ok b) :
    ∃ answer, comparisonAnswer r = .ok answer := by
  obtain ⟨b, rfl⟩ := h
  exact ⟨some b, rfl⟩

theorem family_of_nameValue_text {selector : Selector} {path s : String}
    (h : selector.nameValue? path = some (.text s)) : selector.family = .string := by
  cases selector <;> first | rfl | cases h

theorem family_of_nameValue_count {selector : Selector} {path : String} {n : Nat}
    (h : selector.nameValue? path = some (.count n)) : selector.family = .numeric := by
  cases selector <;> first | rfl | cases h

theorem family_of_moment {m : Metadata} {selector : Selector} {moment : Calendar.Moment}
    (h : Metadata.moment? m selector = some moment) : selector.family = .temporal := by
  cases selector <;> first | rfl | cases h

theorem exists_nameAnswer {p : Predicate} (hp : p.WellTyped) :
    ∃ answer, nameAnswer entity p = .ok answer := by
  unfold nameAnswer
  split
  · next s hvalue =>
    exact exists_comparisonAnswer (exists_compareText hp (family_of_nameValue_text hvalue) s)
  · next n hvalue =>
    exact exists_comparisonAnswer (exists_compareNumber hp (family_of_nameValue_count hvalue) n)
  · exact ⟨_, rfl⟩

theorem exists_metadataVerdict {p : Predicate} (hp : p.WellTyped)
    (hdated : Dated setting.zone entity p) {m : Metadata} (hm : entity.metadata = .ok m) :
    ∃ answer, metadataVerdict setting p m = .ok answer := by
  unfold metadataVerdict
  split
  · next htype => exact exists_comparisonAnswer (exists_compareType hp htype m.type)
  · next hsize =>
    split
    · next size _ =>
      have hfamily : p.selector.family = .numeric := by rw [hsize]; rfl
      exact exists_comparisonAnswer (exists_compareNumber hp hfamily size)
    · exact ⟨_, rfl⟩
  · split
    · next moment hmoment =>
      exact exists_comparisonAnswer (exists_compareMoment hp (family_of_moment hmoment)
        (fun hop => hdated.actual hop m moment hm hmoment) hdated.wanted)
    · exact ⟨_, rfl⟩

theorem exists_metadataAnswer {p : Predicate} (hp : p.WellTyped) (hentity : Entity.Foreseen entity)
    (hdated : Dated setting.zone entity p) :
    ∃ answer, metadataAnswer setting entity p = .ok answer := by
  unfold metadataAnswer
  split
  · exact ⟨_, rfl⟩
  · obtain ⟨answer, hanswer⟩ := hentity.exists_metadata
    rw [hanswer]
    cases answer with
    | none => exact ⟨_, rfl⟩
    | some m => exact exists_metadataVerdict hp hdated (metadata_of_metadataOf hanswer)

theorem exists_documentVerdict (m : Document.Matcher) {roots : List Document.Root}
    (h : ∀ root ∈ roots, root.IsPlain) :
    ∃ answer, documentVerdict setting m roots = .ok answer := by
  unfold documentVerdict
  split
  · exact ⟨_, rfl⟩
  · next fault hfault =>
    rw [if_pos (m.failsForeseen_holds h fault hfault)]
    exact ⟨_, rfl⟩

theorem exists_documentAnswer (hentity : Entity.Foreseen entity) (p : Predicate) :
    ∃ answer, documentAnswer setting entity p = .ok answer := by
  unfold documentAnswer
  split
  · next m _ =>
    obtain ⟨answer, hanswer⟩ : ∃ answer, documentsOf setting entity m.format = .ok answer :=
      hentity.exists_documents m.format
    rw [hanswer]
    cases answer with
    | none => exact ⟨_, rfl⟩
    | some roots =>
      exact exists_documentVerdict m
        (hentity.plain m.format _ roots (documents_of_documentsOf hanswer))
  · exact ⟨_, rfl⟩

/-! ## 4. The content decides what is left -/

theorem asksContent_of_typed {e : Expr} (htyped : ∀ p ∈ e.predicates, p.WellTyped)
    (hcontent : ∀ p ∈ e.predicates, p.category = .content) : e.AsksContent :=
  fun p hp => contentMatcher_of_category (htyped p hp) (hcontent p hp)

theorem exists_contentReduced {e : Expr} (hentity : Entity.Foreseen entity)
    (htyped : ∀ p ∈ e.predicates, p.WellTyped)
    (hcontent : ∀ p ∈ e.predicates, p.category = .content) :
    ∃ e', contentReduced setting entity e = .ok e' := by
  cases hreduced : contentReduced setting entity e with
  | ok e' => exact ⟨e', rfl⟩
  | error fault =>
    obtain ⟨f, hf, -, hunforeseen⟩ :=
      (asksContent_of_typed htyped hcontent).error_of_contentReduced hreduced
    obtain ⟨u, hu⟩ := hentity.content _ f hf
    exact absurd hu (hunforeseen u)

/-! ## 5. Category after category -/

/-- A category leaves no predicate of its own. -/
theorem category_of_categoryReduced {c : Category} {e e' : Expr}
    (htyped : ∀ p ∈ e.predicates, p.WellTyped)
    (h : categoryReduced setting entity c e = .ok e') :
    ∀ p ∈ e'.predicates, p.category ≠ c := by
  intro p hp hcategory
  have htypedp := htyped p (predicates_of_categoryReduced h hp)
  cases c with
  | name =>
    exact nameAnswer_ne_none hcategory ((Expr.folded_of_reduce h).of_mem_predicates p hp).2
  | metadata =>
    exact metadataAnswer_ne_none hcategory ((Expr.folded_of_reduce h).of_mem_predicates p hp).2
  | structured =>
    exact documentAnswer_ne_none htypedp hcategory
      ((Expr.folded_of_reduce h).of_mem_predicates p hp).2
  | content =>
    have hknown := known_of_contentReduced h
    cases e' with
    | known b => cases hp
    | _ => cases hknown

/-- What a category leaves undecided is open. -/
theorem open_of_categoryReduced {c : Category} {e e' : Expr}
    (h : categoryReduced setting entity c e = .ok e') (hknown : e'.known? = none) :
    e'.Open fun _ => True := by
  cases c with
  | content =>
    have hsome := known_of_contentReduced h
    rw [hknown] at hsome
    cases hsome
  | _ => exact ((Expr.folded_of_reduce h).open hknown).mono fun _ _ => trivial

/-- Categories that end with the content fail as one of them does, with a tree that has only
predicates of those that are still to come. -/
theorem error_of_decideFrom (cs : List Category) {e : Expr} {fault : EvaluationFault}
    (htyped : ∀ p ∈ e.predicates, p.WellTyped) (hopen : cs = [] → ∃ p, p ∈ e.predicates)
    (hcategories : ∀ p ∈ e.predicates, p.category ∈ cs ++ [.content])
    (h : decideFrom setting entity (cs ++ [.content]) e = .error fault) :
    ∃ c e', e'.predicates ⊆ e.predicates ∧
      (c ∉ cs → (∃ p, p ∈ e'.predicates) ∧ ∀ p ∈ e'.predicates, p.category = .content) ∧
      categoryReduced setting entity c e' = .error fault := by
  induction cs generalizing e with
  | nil =>
    rcases bind_eq_error.1 h with h | ⟨e', he, h⟩
    · exact ⟨.content, e, List.Subset.refl _, fun _ => ⟨hopen rfl, by simpa using hcategories⟩, h⟩
    · -- the content leaves nothing undecided
      obtain ⟨b, hb⟩ := Option.isSome_iff_exists.1 (known_of_contentReduced he)
      rw [hb] at h
      cases h
  | cons c rest ih =>
    rcases bind_eq_error.1 h with h | ⟨e', he, h⟩
    · exact ⟨c, e, List.Subset.refl _, fun hc => absurd List.mem_cons_self hc, h⟩
    · split at h
      · cases h
      · next hknown =>
        -- predicates are left, of the categories that are still to come
        have hsubset := predicates_of_categoryReduced he
        obtain ⟨p, hp, -⟩ := (open_of_categoryReduced he hknown).exists_predicate
        obtain ⟨d, e'', hsubset', hcontent, hfault⟩ := ih (fun p hp => htyped p (hsubset hp))
          (fun _ => ⟨p, hp⟩)
          (fun p hp => List.mem_of_ne_of_mem (category_of_categoryReduced htyped he p hp)
            (hcategories p (hsubset hp))) h
        refine ⟨d, e'', List.Subset.trans hsubset' hsubset, fun hd => ?_, hfault⟩
        exact hcontent fun hrest => hd (List.mem_cons_of_mem c hrest)

/-- An evaluation fails as one of its categories does, the content only when nothing else is left. -/
theorem error_of_categories {e : Expr} {fault : EvaluationFault}
    (htyped : ∀ p ∈ e.predicates, p.WellTyped)
    (h : decideFrom setting entity categories e = .error fault) :
    ∃ c e', e'.predicates ⊆ e.predicates ∧
      (c = .content → (∃ p, p ∈ e'.predicates) ∧ ∀ p ∈ e'.predicates, p.category = .content) ∧
      categoryReduced setting entity c e' = .error fault := by
  obtain ⟨c, e', hsubset, hcontent, hfault⟩ :=
    error_of_decideFrom [.name, .metadata, .structured] htyped nofun
      (fun p _ => by cases p.category <;> decide) h
  exact ⟨c, e', hsubset, fun hc => hcontent (by rw [hc]; decide), hfault⟩

theorem exists_categoryReduced {c : Category} {e : Expr} (hentity : Entity.Foreseen entity)
    (htyped : ∀ p ∈ e.predicates, p.WellTyped)
    (hdated : ∀ p ∈ e.predicates, Dated setting.zone entity p)
    (hcontent : c = .content → ∀ p ∈ e.predicates, p.category = .content) :
    ∃ e', categoryReduced setting entity c e = .ok e' := by
  cases c with
  | name => exact e.exists_reduce fun p hp => exists_nameAnswer (htyped p hp)
  | metadata =>
    exact e.exists_reduce fun p hp => exists_metadataAnswer (htyped p hp) hentity (hdated p hp)
  | structured => exact e.exists_reduce fun p _ => exists_documentAnswer hentity p
  | content => exact exists_contentReduced hentity htyped (hcontent rfl)

/-! ## 6. Every query that was read has a verdict -/

/-- A predicate whose category has what it asks for: an operator and an attribute of the path or of
the metadata, or a condition on documents or on content. -/
def Predicate.IsAnswerable (path : String) (p : Predicate) : Prop :=
  match p.category with
  | .name => p.operator.isSome ∧ (p.selector.nameValue? path).isSome
  | .metadata =>
    p.operator.isSome ∧ p.selector ∈ [.type, .size, .modified, .created, .accessed]
  | .structured => ∃ m, p.operand = .document m
  | .content => ∃ m, p.operand = .content m

theorem Predicate.WellTyped.isSome_operator {p : Predicate} (hp : p.WellTyped)
    (h : p.category ≠ .structured) : p.operator.isSome = true := by
  cases hp with
  | document m => exact absurd rfl h
  | _ => rfl

theorem Predicate.WellTyped.isAnswerable {p : Predicate} (hp : p.WellTyped) (path : String) :
    p.IsAnswerable path := by
  unfold IsAnswerable
  cases hcategory : p.category with
  | name =>
    obtain ⟨value, hvalue⟩ := exists_nameValue hcategory path
    exact ⟨hp.isSome_operator (by rw [hcategory]; decide), by rw [hvalue]; rfl⟩
  | metadata =>
    refine ⟨hp.isSome_operator (by rw [hcategory]; decide), ?_⟩
    rw [category] at hcategory
    cases hselector : p.selector <;> rw [hselector] at hcategory <;>
      first | decide | cases hcategory
  | structured => exact hp.exists_document hcategory
  | content => exact hp.exists_content hcategory

/-- Queries that were read do not go wrong: each of their predicates finds what it asks for, and the
evaluation ends with a verdict. -/
theorem evaluate_succeeds {clock : Clock} {query : String} {e : Expr}
    (h : parse stack clock query = .ok e) (hentity : Entity.Foreseen entity)
    (hdated : ∀ p ∈ e.predicates, Dated setting.zone entity p) :
    (∀ p ∈ e.predicates, p.WellTyped ∧ p.IsAnswerable entity.path) ∧
      ∃ r frame, e.evaluate setting entity = (.ok r, frame) := by
  have htyped := wellTyped_of_parse h
  refine ⟨fun p hp => ⟨htyped p hp, (htyped p hp).isAnswerable entity.path⟩, ?_⟩
  cases hdecide : decideFrom setting entity categories e with
  | ok r => exact ⟨r, (e.evaluate setting entity).2, by rw [← hdecide, ← evaluate_eq_decideFrom]⟩
  | error fault =>
    obtain ⟨c, e', hsubset, hcontent, hfault⟩ := error_of_categories htyped hdecide
    obtain ⟨reduced, hreduced⟩ := exists_categoryReduced hentity (fun p hp => htyped p (hsubset hp))
      (fun p hp => hdated p (hsubset hp)) fun hc => (hcontent hc).2
    rw [hreduced] at hfault
    cases hfault

/-- A file whose content breaks off while it is read. -/
theorem evaluate_succeeds_broken_off :
    let entity : Entity := {
      path := "a.txt"
      metadata := .ok { type := .file, modified := some ⟨63839664000000001, 0⟩ }
      documents := fun _ _ => .ok []
      content := fun _ => ⟨[[97]], some (.unavailable ⟨.other, ""⟩)⟩ }
    let e : Expr := .and [.pred ⟨.modified, some .eq, .moment ⟨⟨63839664000000000, 0⟩, false⟩⟩,
      .pred ⟨.content, some .contains, .content (.contains "b")⟩]
    parse (.ofDepth 9) ⟨.fixed 0 0, .fixed 0⟩ "modified on 2024-01-01 AND content contains b" = .ok e ∧
      Entity.Foreseen entity ∧ (∀ p ∈ e.predicates, Dated (.fixed 0) entity p) ∧
      ∃ r frame, e.evaluate {} entity = (.ok r, frame) := by
  intro entity e
  have hparse : parse (.ofDepth 9) ⟨.fixed 0 0, .fixed 0⟩
      "modified on 2024-01-01 AND content contains b" = .ok e := by
    with_unfolding_all rfl
  have hentity : Entity.Foreseen entity :=
    ⟨nofun, fun _ _ _ h => (by cases h; exact nofun), fun _ _ _ h => (by cases h),
      fun _ _ h => ⟨_, (Option.some.inj h).symm⟩⟩
  have hdated : ∀ p ∈ e.predicates, Dated (.fixed 0) entity p := by
    intro p hp
    simp only [e, Expr.predicates, predicatesOf, List.mem_append, List.mem_singleton,
      List.not_mem_nil, or_false] at hp
    rcases hp with rfl | rfl
    · refine ⟨fun _ m moment hm hmoment => ?_, fun _ m hm => ?_⟩
      · cases hm
        cases hmoment
        exact ⟨_, rfl⟩
      · cases hm
        exact ⟨_, rfl⟩
    · exact ⟨fun h => by simp [Predicate.op] at h, fun h => by simp [Predicate.op] at h⟩
  exact ⟨hparse, hentity, hdated, (evaluate_succeeds hparse hentity hdated).2⟩

end FileQuery.Query
