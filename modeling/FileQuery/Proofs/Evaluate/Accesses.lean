import FileQuery.Proofs.Evaluate.Naive

/-!
# What an evaluation asks for

The state notes every question to the entity, and it remembers the answer.  So a step asks for nothing
that was asked for before, and it asks only what a predicate of its category needs.  Both hold also for
steps that fail.
-/

namespace FileQuery.Query

variable {setting : Setting} {entity : Entity} {α β : Type}

/-! ## 1. Questions and answers -/

def Access.category : Access → Category
  | .metadata => .metadata
  | .documents _ => .structured
  | .content => .content

def Access.isAdmitted (path : String) : Access → Bool
  | .documents format => format.admits path
  | _ => true

/-- A state in which nothing was asked for twice and the answers are remembered. -/
structure Frame.Recorded (frame : Frame) : Prop where
  nodup : frame.accesses.Nodup
  metadata : .metadata ∈ frame.accesses → frame.metadata.isSome = true
  documents : ∀ format, .documents format ∈ frame.accesses →
    (frame.documents.lookup format).isSome = true

theorem Frame.recorded_initial (e : Expr) : Frame.Recorded { expr := e } :=
  ⟨List.nodup_nil, nofun, nofun⟩

/-- A state with the same questions and answers. -/
theorem Frame.Recorded.of_eq {frame frame' : Frame} (h : frame.Recorded)
    (haccesses : frame'.accesses = frame.accesses) (hmetadata : frame'.metadata = frame.metadata)
    (hdocuments : frame'.documents = frame.documents) : frame'.Recorded := by
  refine ⟨?_, ?_, ?_⟩
  · rw [haccesses]
    exact h.nodup
  · rw [haccesses, hmetadata]
    exact h.metadata
  · rw [haccesses, hdocuments]
    exact h.documents

/-- The questions between two states: nothing is asked for twice, and nothing new that `P` does not
allow. -/
structure Asked (P : Access → Prop) (frame frame' : Frame) : Prop where
  nodup : frame'.accesses.Nodup
  allowed : ∀ a ∈ frame'.accesses, a ∈ frame.accesses ∨ P a

namespace Asked

variable {P Q : Access → Prop} {first second third : Frame}

theorem same (h : first.Recorded) (haccesses : second.accesses = first.accesses) :
    Asked P first second := by
  refine ⟨?_, fun a ha => .inl ?_⟩
  · rw [haccesses]
    exact h.nodup
  · rw [haccesses] at ha
    exact ha

/-- One question that was not asked before. -/
theorem once {a : Access} (h : first.Recorded) (hnew : a ∉ first.accesses) (ha : P a)
    (haccesses : second.accesses = a :: first.accesses) : Asked P first second := by
  refine ⟨?_, ?_⟩
  · rw [haccesses]
    exact List.nodup_cons.2 ⟨hnew, h.nodup⟩
  · intro b hb
    rw [haccesses, List.mem_cons] at hb
    cases hb with
    | inl hba => exact .inr (by rw [hba]; exact ha)
    | inr hb => exact .inl hb

theorem trans (h : Asked P first second) (h' : Asked P second third) : Asked P first third := by
  refine ⟨h'.nodup, fun a ha => ?_⟩
  cases h'.allowed a ha with
  | inl hsecond => exact h.allowed a hsecond
  | inr hP => exact .inr hP

theorem mono (h : Asked P first second) (hPQ : ∀ a, P a → Q a) : Asked Q first second :=
  ⟨h.nodup, fun a ha => (h.allowed a ha).imp_right (hPQ a)⟩

end Asked

/-! ## 2. Steps that ask for nothing twice -/

/-- From a state on, a step asks for what `P` allows, and for nothing twice; unless it fails, the
answers are remembered. -/
structure AsksFrom (P : Access → Prop) (frame : Frame) (x : Evaluation α) : Prop where
  asked : Asked P frame (x.run frame).2
  recorded : ∀ a, (x.run frame).1 = .ok a → (x.run frame).2.Recorded

theorem AsksFrom.of_run {P : Access → Prop} {x : Evaluation α} {frame frame' : Frame}
    {r : Except EvaluationFault α} (h : x.run frame = (r, frame')) (hasked : Asked P frame frame')
    (hrecorded : frame'.Recorded) : AsksFrom P frame x := by
  refine ⟨?_, fun _ _ => ?_⟩
  · rw [h]
    exact hasked
  · rw [h]
    exact hrecorded

theorem AsksFrom.of_error {P : Access → Prop} {x : Evaluation α} {frame frame' : Frame}
    {e : EvaluationFault} (h : x.run frame = (.error e, frame')) (hasked : Asked P frame frame') :
    AsksFrom P frame x := by
  refine ⟨?_, fun a ha => ?_⟩
  · rw [h]
    exact hasked
  · rw [h] at ha
    cases ha

theorem AsksFrom.mono {P Q : Access → Prop} {x : Evaluation α} {frame : Frame}
    (h : AsksFrom P frame x) (hPQ : ∀ a, P a → Q a) : AsksFrom Q frame x :=
  ⟨h.asked.mono hPQ, h.recorded⟩

/-- The same from every state that remembers the answers so far. -/
def Asks (P : Access → Prop) (x : Evaluation α) : Prop :=
  ∀ frame : Frame, frame.Recorded → AsksFrom P frame x

namespace Asks

variable {P : Access → Prop}

theorem ok (a : α) : Asks P (pure a : Evaluation α) :=
  fun _ h => ⟨.same h rfl, fun _ _ => h⟩

theorem error (e : EvaluationFault) : Asks P (throw e : Evaluation α) :=
  fun _ h => ⟨.same h rfl, fun _ _ => h⟩

theorem bind {x : Evaluation α} {f : α → Evaluation β} (hx : Asks P x) (hf : ∀ a, Asks P (f a)) :
    Asks P (x >>= f) := by
  intro frame hframe
  obtain ⟨hasked, hrecorded⟩ := hx frame hframe
  have hrun := run_bind x f frame
  rcases hfirst : x.run frame with ⟨e | a, frame'⟩
  · rw [hfirst] at hrun hasked
    exact .of_error hrun hasked
  · rw [hfirst] at hrun hasked hrecorded
    -- the second step starts with the answers that the first one remembers
    have hsecond := hf a frame' (hrecorded a rfl)
    refine ⟨?_, ?_⟩
    · rw [hrun]
      exact hasked.trans hsecond.asked
    · rw [hrun]
      exact hsecond.recorded

/-- A change of the state that leaves questions and answers as they are. -/
theorem update {f : Frame → Frame}
    (hf : ∀ frame, (f frame).accesses = frame.accesses ∧ (f frame).metadata = frame.metadata ∧
      (f frame).documents = frame.documents) : Asks P (modify f : Evaluation Unit) := by
  intro frame h
  obtain ⟨haccesses, hmetadata, hdocuments⟩ := hf frame
  exact ⟨.same h haccesses, fun _ _ => h.of_eq haccesses hmetadata hdocuments⟩

theorem remark (r : Remark) : Asks P (Frame.remark r) :=
  update fun _ => ⟨rfl, rfl, rfl⟩

theorem lift (r : Except EvaluationFault α) : Asks P (lift r) := by
  cases r with
  | ok a => exact ok a
  | error e => exact error e

theorem answerOf (r : Except CompareFault Bool) : Asks P (answerOf r) := by
  cases r with
  | ok b => exact ok (some b)
  | error fault => exact error (.compare fault)

end Asks

/-! ## 3. Asking the entity -/

section ask

variable {P : Access → Prop}

theorem Frame.Recorded.not_mem_metadata {frame : Frame} (h : frame.Recorded)
    (hnone : frame.metadata = none) : .metadata ∉ frame.accesses := by
  intro hmem
  have hsome := h.metadata hmem
  rw [hnone] at hsome
  cases hsome

theorem Frame.Recorded.not_mem_documents {frame : Frame} {format : Document.Format}
    (h : frame.Recorded) (hnone : frame.documents.lookup format = none) :
    .documents format ∉ frame.accesses := by
  intro hmem
  have hsome := h.documents format hmem
  rw [hnone] at hsome
  cases hsome

theorem Frame.Recorded.withMetadata {frame : Frame} (h : frame.Recorded)
    (hnew : .metadata ∉ frame.accesses) (answer : Option Metadata) (remarks : List Remark) :
    (frame.withMetadata answer remarks).Recorded := by
  refine ⟨List.nodup_cons.2 ⟨hnew, h.nodup⟩, fun _ => rfl, fun format hmem => ?_⟩
  have hmem : Access.documents format ∈ Access.metadata :: frame.accesses := hmem
  exact h.documents format (List.mem_of_ne_of_mem (by simp) hmem)

theorem Asks.askMetadata (hP : P .metadata) : Asks P (Frame.askMetadata entity) := by
  intro frame hframe
  cases hcached : frame.metadata with
  | some answer =>
    have hrun : (Frame.askMetadata entity).run frame = (.ok answer, frame) := by
      rw [askMetadata_run, hcached]
    exact .of_run hrun (.same hframe rfl) hframe
  | none =>
    have hnew := hframe.not_mem_metadata hcached
    -- whatever the entity answers, the question is noted and the answer remembered
    obtain ⟨r, answer, remarks, hsame⟩ : ∃ r answer remarks,
        (Frame.askMetadata entity).run frame = (r, frame.withMetadata answer remarks) := by
      rw [askMetadata_run, hcached]
      dsimp only
      split <;> exact ⟨_, _, _, rfl⟩
    exact .of_run hsame (.once hframe hnew hP rfl) (hframe.withMetadata hnew answer remarks)

def Frame.withQuestion (frame : Frame) (entity : Entity) (format : Document.Format)
    (remarks : List Remark) : Frame :=
  { frame with
    accesses := if format.admits entity.path then .documents format :: frame.accesses
      else frame.accesses
    remarks := remarks }

theorem readDocuments_run (format : Document.Format) (frame : Frame) : ∃ remarks,
    (Frame.readDocuments setting entity format).run frame =
      (documentsOf setting entity format, frame.withQuestion entity format remarks) := by
  unfold Frame.readDocuments documentsOf Frame.withQuestion
  cases format.admits entity.path with
  | false => exact ⟨frame.remarks, rfl⟩
  | true =>
    cases entity.documents format setting.config.maxDocumentSize with
    | ok roots => exact ⟨frame.remarks, rfl⟩
    | error fault => cases fault <;> exact ⟨_, rfl⟩

section read

variable {frame frame' : Frame} {format : Document.Format}

theorem askDocuments_of_ok {answer : Option (List Document.Root)}
    (hcached : frame.documents.lookup format = none)
    (hread : (Frame.readDocuments setting entity format).run frame = (.ok answer, frame')) :
    (Frame.askDocuments setting entity format).run frame =
      (.ok answer, { frame' with documents := (format, answer) :: frame'.documents }) := by
  rw [askDocuments_of_none hcached, run_bind, hread]
  rfl

theorem askDocuments_of_error {e : EvaluationFault}
    (hcached : frame.documents.lookup format = none)
    (hread : (Frame.readDocuments setting entity format).run frame = (.error e, frame')) :
    (Frame.askDocuments setting entity format).run frame = (.error e, frame') := by
  rw [askDocuments_of_none hcached, run_bind, hread]

end read

theorem Asked.withQuestion {frame : Frame} {format : Document.Format} (h : frame.Recorded)
    (hnew : .documents format ∉ frame.accesses)
    (hP : format.admits entity.path = true → P (.documents format)) (remarks : List Remark) :
    Asked P frame (frame.withQuestion entity format remarks) := by
  by_cases hadmits : format.admits entity.path = true
  · exact .once h hnew (hP hadmits) (if_pos hadmits)
  · exact .same h (if_neg hadmits)

theorem Frame.Recorded.withDocuments {frame : Frame} {format : Document.Format}
    (h : frame.Recorded) (hnew : .documents format ∉ frame.accesses) (remarks : List Remark)
    (answer : Option (List Document.Root)) :
    Frame.Recorded { frame.withQuestion entity format remarks with
      documents := (format, answer) :: frame.documents } := by
  have hasked : Asked (· = .documents format) frame (frame.withQuestion entity format remarks) :=
    Asked.withQuestion (P := (· = .documents format)) h hnew (fun _ => rfl) remarks
  refine ⟨hasked.nodup, fun hmem => ?_, fun format' hmem => ?_⟩
  · exact h.metadata ((hasked.allowed _ hmem).resolve_right (by simp))
  · show (List.lookup format' ((format, answer) :: frame.documents)).isSome = true
    rw [List.lookup_cons]
    by_cases hformat : format' = format
    · rw [hformat, beq_self_eq_true]
      rfl
    · rw [show (format' == format) = false from by simpa using hformat]
      exact h.documents format' ((hasked.allowed _ hmem).resolve_right (by simpa using hformat))

theorem Asks.askDocuments {format : Document.Format}
    (hP : format.admits entity.path = true → P (.documents format)) :
    Asks P (Frame.askDocuments setting entity format) := by
  intro frame hframe
  cases hcached : frame.documents.lookup format with
  | some answer => exact .of_run (askDocuments_of_some hcached) (.same hframe rfl) hframe
  | none =>
    have hnew := hframe.not_mem_documents hcached
    obtain ⟨remarks, hread⟩ : ∃ remarks, (Frame.readDocuments setting entity format).run frame =
        (documentsOf setting entity format, frame.withQuestion entity format remarks) :=
      readDocuments_run format frame
    have hasked : Asked P frame (frame.withQuestion entity format remarks) :=
      .withQuestion hframe hnew hP remarks
    -- the access is noted first, so it counts even where no answer is remembered
    cases hanswer : documentsOf setting entity format with
    | error fault =>
      rw [hanswer] at hread
      exact .of_error (askDocuments_of_error hcached hread) hasked
    | ok answer =>
      rw [hanswer] at hread
      exact .of_run (askDocuments_of_ok hcached hread) ⟨hasked.nodup, hasked.allowed⟩
        (hframe.withDocuments hnew remarks answer)

end ask

/-! ## 4. Deciding predicates -/

namespace Asks

variable {P : Access → Prop}

theorem resolveName (p : Predicate) : Asks P (resolveName entity p) := by
  unfold Query.resolveName
  cases p.selector.nameValue? entity.path with
  | none => exact ok none
  | some value =>
    cases value with
    | text s => exact answerOf _
    | count n => exact answerOf _

theorem resolveMetadata {p : Predicate} (hP : p.category = .metadata → P .metadata) :
    Asks P (resolveMetadata setting entity p) := by
  unfold Query.resolveMetadata
  by_cases hcategory : p.category = .metadata
  · rw [if_neg (by simpa using hcategory)]
    refine (askMetadata (hP hcategory)).bind fun answer => ?_
    cases answer with
    | none => exact ok (some false)
    | some m =>
      -- what is known of the metadata decides without another access
      dsimp only
      split
      · exact answerOf _
      · split
        · exact answerOf _
        · exact ok (some false)
      · split
        · exact answerOf _
        · exact ok (some false)
  · rw [if_pos (by simpa using hcategory)]
    exact ok none

theorem resolveDocument {p : Predicate}
    (hP : ∀ m, p.operand = .document m → m.format.admits entity.path = true →
      P (.documents m.format)) : Asks P (resolveDocument setting entity p) := by
  unfold Query.resolveDocument
  cases hoperand : p.operand with
  | document m =>
    refine (askDocuments (hP m hoperand)).bind fun answer => ?_
    cases answer with
    | none => exact ok (some false)
    | some roots =>
      dsimp only
      cases m.holds setting.textLimit roots with
      | ok b => exact ok (some b)
      | error fault =>
        dsimp only
        cases fault.isForeseen with
        | true => exact (remark _).bind fun _ => ok (some false)
        | false => exact error (.text fault)
  | _ => exact ok none

/-- Folding a tree asks what its predicates ask. -/
theorem fold {resolve : Predicate → Evaluation (Option Bool)} {e : Expr}
    (h : ∀ p ∈ e.predicates, Asks P (resolve p)) : Asks P (e.fold resolve) := by
  rw [Expr.fold_eq_reduce]
  exact Expr.reduce_related (m := Evaluation) (n := Evaluation) (R := fun _ x _ => Asks P x)
    resolve resolve ok bind e h

theorem scannersAfter (scanned : Content.Scanned AccessFault) : Asks P (scannersAfter scanned) := by
  unfold Query.scannersAfter
  cases scanned.fault with
  | none => exact ok _
  | some fault =>
    cases fault with
    | unavailable u => exact (remark _).bind fun _ => ok _
    | _ => exact error _

end Asks

/-- The content is asked for first, and after that nothing. -/
theorem asksFrom_resolveContent {frame : Frame} (h : frame.Recorded)
    (hnew : .content ∉ frame.accesses) (e : Expr) :
    AsksFrom (· = .content) frame (resolveContent setting entity e) := by
  have hnoted : Frame.Recorded { frame with accesses := .content :: frame.accesses } := by
    refine ⟨List.nodup_cons.2 ⟨hnew, h.nodup⟩, fun hmem => ?_, fun format hmem => ?_⟩
    · exact h.metadata (List.mem_of_ne_of_mem (by simp) hmem)
    · exact h.documents format (List.mem_of_ne_of_mem (by simp) hmem)
  -- the note is the only access, whatever is done with the content after it
  have hafter : ∀ x : Evaluation Expr, Asks (fun _ => False) x →
      AsksFrom (· = .content) frame (Frame.note .content >>= fun _ => x) := by
    intro x hx
    obtain ⟨hasked, hrecorded⟩ := hx _ hnoted
    have honce : Asked (· = .content) frame
        { frame with accesses := .content :: frame.accesses } := .once h hnew rfl rfl
    exact ⟨honce.trans (hasked.mono fun _ => False.elim), hrecorded⟩
  refine hafter _ ?_
  refine (Asks.lift _).bind fun scanned => ?_
  refine Asks.bind (.update fun _ => ⟨rfl, rfl, rfl⟩) fun _ => ?_
  have hlast : Asks (fun _ => False)
      (scannersAfter scanned >>= fun scanners => lift (e.withFinished scanners)) :=
    (Asks.scannersAfter scanned).bind fun scanners => .lift _
  cases scanned.undecodable with
  | none => exact hlast
  | some fault => exact (Asks.remark _).bind fun _ => hlast

/-! ## 5. Deciding a category -/

/-- What the predicates of a tree need, if the path admits it. -/
structure Access.IsNeeded (path : String) (e : Expr) (a : Access) : Prop where
  predicate : ∃ p ∈ e.predicates, p.category = a.category
  admitted : a.isAdmitted path = true

/-- A category asks for what its predicates need. -/
theorem asksFrom_resolveCategory {c : Category} {e : Expr} {frame : Frame} (h : frame.Recorded)
    (hnew : ∀ a ∈ frame.accesses, a.category ≠ c) (htyped : ∀ p ∈ e.predicates, p.WellTyped)
    (hcontent : c = .content → ∃ p ∈ e.predicates, p.category = .content) :
    AsksFrom (fun a => a.category = c ∧ a.IsNeeded entity.path e) frame
      (resolveCategory setting entity c e) := by
  -- names need no access, content exactly one, and the other two what a predicate of theirs asks
  -- for
  cases c with
  | name =>
    have hasks : Asks (fun a => a.category = .name ∧ a.IsNeeded entity.path e)
        (e.fold (resolveName entity)) := .fold fun p _ => .resolveName p
    exact hasks frame h
  | metadata =>
    have hasks : Asks (fun a => a.category = .metadata ∧ a.IsNeeded entity.path e)
        (e.fold (resolveMetadata setting entity)) :=
      .fold fun p hp => .resolveMetadata fun hcategory => ⟨rfl, ⟨p, hp, hcategory⟩, rfl⟩
    exact hasks frame h
  | structured =>
    have hasks : Asks (fun a => a.category = .structured ∧ a.IsNeeded entity.path e)
        (e.fold (resolveDocument setting entity)) := by
      refine .fold fun p hp => .resolveDocument fun m hm hadmits => ?_
      exact ⟨rfl, ⟨p, hp, category_of_document (htyped p hp) hm⟩, hadmits⟩
    exact hasks frame h
  | content =>
    have hunasked : .content ∉ frame.accesses := fun hmem => hnew _ hmem rfl
    refine (asksFrom_resolveContent h hunasked e).mono fun a ha => ?_
    rw [ha]
    exact ⟨rfl, hcontent rfl, rfl⟩

end FileQuery.Query
