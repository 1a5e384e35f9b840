import FileQuery.Proofs.Evaluate.Accesses

/-!
# Operations on the state of an evaluation

A state is moved to a phase or to a verdict, and it is asked for metadata and documents, in any order.
What each operation can do is said once, by `Frame.Takes`.  From it follows what a single operation
keeps, and from that what any sequence of operations does: phases go forwards only, a verdict is final,
and the entity is asked for nothing twice, whatever it answered the first time.
-/

namespace FileQuery.Query

variable {setting : Setting} {entity : Entity} {path : String} {frame frame' : Frame}

/-! ## 1. Operations -/

inductive Operation where
  | advance (next : Phase)
  | resolve (v : Verdict)
  | metadata
  | documents (format : Document.Format)
deriving DecidableEq, Repr

inductive Reply where
  | advanced
  | resolved (v : Verdict)
  | metadata (answer : Option Metadata)
  | documents (answer : Option (List Document.Root))

namespace Operation

def perform (setting : Setting) (entity : Entity) : Operation → Evaluation Reply
  | .advance next => do
    Frame.advance next
    return .advanced
  | .resolve v => return .resolved (← Frame.resolve v)
  | .metadata => return .metadata (← Frame.askMetadata entity)
  | .documents format => return .documents (← Frame.askDocuments setting entity format)

def target? : Operation → Option Phase
  | .advance next => some next
  | .resolve _ => some .resolved
  | _ => none

end Operation

def Frame.answer? (frame : Frame) : Operation → Option Reply
  | .metadata => frame.metadata.map .metadata
  | .documents format => (frame.documents.lookup format).map .documents
  | _ => none

theorem Frame.answer?_of_target {op : Operation} {next : Phase} (h : op.target? = some next) :
    frame.answer? op = none := by
  cases op <;> first | rfl | cases h

/-- An entity at a path whose metadata are there or unavailable, and whose documents are there,
unavailable or unusable. -/
structure Entity.AnswersAt (path : String) (entity : Entity) : Prop where
  path : entity.path = path
  metadata : ∀ fault, entity.metadata = .error fault → ∃ u, fault = .unavailable u
  documents : ∀ format size fault, entity.documents format size = .error fault →
    (∃ u, fault = .unavailable u) ∨ ∃ u, fault = .unusable u

/-! ## 2. What one operation does -/

/-- What an operation makes of a state.  It moves to a later phase or is refused; or it gives the answer
that is remembered; or it asks the entity, notes that, and remembers the answer. -/
inductive Frame.Takes (entity : Entity) (frame : Frame) :
    Operation → Except EvaluationFault Reply → Frame → Prop
  | advanced {next : Phase} : frame.phase.rank < next.rank →
      Takes entity frame (.advance next) (.ok .advanced) { frame with phase := next }
  | resolved {v : Verdict} : frame.phase.rank < Phase.resolved.rank →
      Takes entity frame (.resolve v) (.ok (.resolved v))
        { frame with phase := .resolved, verdict := some v }
  | refused {op : Operation} {next : Phase} : op.target? = some next →
      next.rank ≤ frame.phase.rank →
      Takes entity frame op (.error (.phase frame.phase next)) frame
  | remembered {op : Operation} {reply : Reply} : frame.answer? op = some reply →
      Takes entity frame op (.ok reply) frame
  | metadata {answer : Option Metadata} {remarks : List Remark} : frame.metadata = none →
      Takes entity frame .metadata (.ok (.metadata answer)) (frame.withMetadata answer remarks)
  | documents {format : Document.Format} {answer : Option (List Document.Root)}
      {remarks : List Remark} : frame.documents.lookup format = none →
      Takes entity frame (.documents format) (.ok (.documents answer))
        { frame.withQuestion entity format remarks with
          documents := (format, answer) :: frame.documents }

theorem Frame.advance_refused {next : Phase} (h : next.rank ≤ frame.phase.rank) :
    (Frame.advance next).run frame = (.error (.phase frame.phase next), frame) := by
  have hrun : (Frame.advance next).run frame = ExceptT.run (do
      if next.rank ≤ frame.phase.rank then throw (.phase frame.phase next)
      modify ({ · with phase := next }) : Evaluation Unit) frame := rfl
  rw [hrun, if_pos h]
  rfl

theorem takes_advance (next : Phase) :
    Frame.Takes entity frame (.advance next)
      (((Operation.advance next).perform setting entity).run frame).1
      (((Operation.advance next).perform setting entity).run frame).2 := by
  rw [Operation.perform, run_bind]
  by_cases h : next.rank ≤ frame.phase.rank
  · rw [Frame.advance_refused h]
    exact .refused rfl h
  · rw [Frame.advance_run (Nat.lt_of_not_le h)]
    exact .advanced (Nat.lt_of_not_le h)

theorem takes_resolve (v : Verdict) :
    Frame.Takes entity frame (.resolve v)
      (((Operation.resolve v).perform setting entity).run frame).1
      (((Operation.resolve v).perform setting entity).run frame).2 := by
  rw [Operation.perform, run_bind, Frame.resolve, run_bind]
  by_cases h : Phase.resolved.rank ≤ frame.phase.rank
  · rw [Frame.advance_refused h]
    exact .refused rfl h
  · rw [Frame.advance_run (Nat.lt_of_not_le h)]
    exact .resolved (Nat.lt_of_not_le h)

theorem takes_metadata (h : Entity.AnswersAt path entity) :
    Frame.Takes entity frame .metadata
      ((Operation.metadata.perform setting entity).run frame).1
      ((Operation.metadata.perform setting entity).run frame).2 := by
  rw [Operation.perform, run_bind, askMetadata_run]
  cases hcached : frame.metadata with
  | some answer =>
    refine .remembered ?_
    rw [Frame.answer?, hcached]
    rfl
  | none =>
    dsimp only
    cases hmetadata : entity.metadata with
    | ok m => exact .metadata hcached
    | error fault =>
      obtain ⟨u, rfl⟩ := h.metadata fault hmetadata
      exact .metadata hcached

theorem takes_documents (h : Entity.AnswersAt path entity) (format : Document.Format) :
    Frame.Takes entity frame (.documents format)
      (((Operation.documents format).perform setting entity).run frame).1
      (((Operation.documents format).perform setting entity).run frame).2 := by
  rw [Operation.perform, run_bind]
  cases hcached : frame.documents.lookup format with
  | some answer =>
    rw [askDocuments_of_some hcached]
    refine .remembered ?_
    rw [Frame.answer?, hcached]
    rfl
  -- an entity that answers has an answer for every format, so it is remembered
  | none =>
    obtain ⟨answer, hanswer⟩ : ∃ answer, documentsOf setting entity format = .ok answer :=
      exists_documentsOf h.documents format
    obtain ⟨remarks, hread⟩ : ∃ remarks, (Frame.readDocuments setting entity format).run frame =
        (documentsOf setting entity format, frame.withQuestion entity format remarks) :=
      readDocuments_run format frame
    rw [hanswer] at hread
    rw [askDocuments_of_ok hcached hread]
    exact .documents hcached

/-- Every operation takes a state as described. -/
theorem takes_perform (h : Entity.AnswersAt path entity) (op : Operation) (frame : Frame) :
    frame.Takes entity op ((op.perform setting entity).run frame).1
      ((op.perform setting entity).run frame).2 := by
  cases op with
  | advance next => exact takes_advance next
  | resolve v => exact takes_resolve v
  | metadata => exact takes_metadata h
  | documents format => exact takes_documents h format

/-! ## 3. What one operation keeps -/

/-- A state that remembers what it asked, has asked only for documents in a format of the path, and has
a verdict only where it is resolved. -/
structure Frame.Kept (path : String) (frame : Frame) : Prop where
  recorded : frame.Recorded
  admitted : ∀ format, .documents format ∈ frame.accesses → format.admits path = true
  final : frame.verdict.isSome = true → frame.phase = .resolved

theorem Frame.kept_initial (e : Expr) : Frame.Kept path { expr := e } :=
  ⟨Frame.recorded_initial e, nofun, nofun⟩

/-- A state that another one has become: its phase is no earlier, and the verdict and the answers are
still there. -/
structure Frame.Extends (frame frame' : Frame) : Prop where
  phase : frame.phase.rank ≤ frame'.phase.rank
  verdict : ∀ v, frame.verdict = some v → frame'.verdict = some v
  answer : ∀ op reply, frame.answer? op = some reply → frame'.answer? op = some reply

theorem Frame.Extends.refl (frame : Frame) : frame.Extends frame :=
  ⟨Nat.le_refl _, fun _ h => h, fun _ _ h => h⟩

theorem Frame.Extends.trans {frame'' : Frame} (h : frame.Extends frame')
    (h' : frame'.Extends frame'') : frame.Extends frame'' where
  phase := Nat.le_trans h.phase h'.phase
  verdict v hv := h'.verdict v (h.verdict v hv)
  answer op reply hreply := h'.answer op reply (h.answer op reply hreply)

/-- No phase comes after the last one. -/
theorem Phase.rank_le_resolved (phase : Phase) : phase.rank ≤ Phase.resolved.rank := by
  rcases phase with (_ | _ | _ | _) | _ <;> decide

theorem Frame.Kept.verdict_eq_none (h : frame.Kept path)
    (hrank : frame.phase.rank < Phase.resolved.rank) : frame.verdict = none := by
  cases hverdict : frame.verdict with
  | none => rfl
  | some v =>
    rw [h.final (by rw [hverdict]; rfl)] at hrank
    exact absurd hrank (Nat.lt_irrefl _)

section step

variable {op : Operation} {r : Except EvaluationFault Reply}

theorem Frame.Kept.takes (h : frame.Kept path) (hpath : entity.path = path)
    (htakes : frame.Takes entity op r frame') : frame'.Kept path := by
  cases htakes with
  | @advanced next hrank =>
    refine ⟨h.recorded.of_eq rfl rfl rfl, h.admitted, fun hverdict => ?_⟩
    -- a state with a verdict is in the last phase and does not move any more
    have hlast := Phase.rank_le_resolved next
    rw [h.final hverdict] at hrank
    omega
  | resolved hrank => exact ⟨h.recorded.of_eq rfl rfl rfl, h.admitted, fun _ => rfl⟩
  | refused => exact h
  | remembered => exact h
  | @metadata answer remarks hnone =>
    refine ⟨h.recorded.withMetadata (h.recorded.not_mem_metadata hnone) answer remarks,
      fun format hmem => ?_, h.final⟩
    have hmem : Access.documents format ∈ Access.metadata :: frame.accesses := hmem
    exact h.admitted format (List.mem_of_ne_of_mem (by simp) hmem)
  | @documents format answer remarks hnone =>
    have hnew := h.recorded.not_mem_documents hnone
    refine ⟨h.recorded.withDocuments hnew remarks answer, fun format' hmem => ?_, h.final⟩
    have hasked : Asked (fun a => a = .documents format ∧ format.admits path = true) frame
        (frame.withQuestion entity format remarks) :=
      .withQuestion h.recorded hnew (fun hadmits => ⟨rfl, hpath ▸ hadmits⟩) remarks
    rcases hasked.allowed _ hmem with hbefore | ⟨hsame, hadmits⟩
    · exact h.admitted format' hbefore
    · cases hsame
      exact hadmits

theorem Frame.Kept.extends (h : frame.Kept path) (htakes : frame.Takes entity op r frame') :
    frame.Extends frame' := by
  -- only what was open changes: the phase, the verdict, or one question
  cases htakes with
  | advanced hrank => exact ⟨Nat.le_of_lt hrank, fun _ hv => hv, fun op _ ha => by cases op <;> exact ha⟩
  | resolved hrank =>
    refine ⟨Nat.le_of_lt hrank, fun v hv => ?_, fun op _ ha => by cases op <;> exact ha⟩
    rw [h.verdict_eq_none hrank] at hv
    cases hv
  | refused => exact .refl frame
  | remembered => exact .refl frame
  | metadata hnone =>
    refine ⟨Nat.le_refl _, fun _ hv => hv, fun op reply ha => ?_⟩
    cases op with
    | metadata =>
      rw [Frame.answer?, hnone] at ha
      cases ha
    | _ => exact ha
  | @documents format answer remarks hnone =>
    refine ⟨Nat.le_refl _, fun _ hv => hv, fun op reply ha => ?_⟩
    cases op with
    | documents format' =>
      have hne : format' ≠ format := by
        rintro rfl
        rw [Frame.answer?, hnone] at ha
        cases ha
      show (List.lookup format' ((format, answer) :: frame.documents)).map _ = some reply
      rw [List.lookup_cons, show (format' == format) = false from by simpa using hne]
      exact ha
    | _ => exact ha

/-- A move goes to its phase if that is later; otherwise it is refused and changes nothing. -/
theorem Frame.Takes.move {next : Phase} (h : frame.Takes entity op r frame')
    (htarget : op.target? = some next) :
    (frame.phase.rank < frame'.phase.rank ∧ frame'.phase = next ∧ ∃ reply, r = .ok reply) ∨
      (next.rank ≤ frame.phase.rank ∧ frame' = frame ∧ r = .error (.phase frame.phase next)) := by
  cases h with
  | advanced hrank =>
    cases htarget
    exact .inl ⟨hrank, rfl, _, rfl⟩
  | resolved hrank =>
    cases htarget
    exact .inl ⟨hrank, rfl, _, rfl⟩
  | refused htarget' hrank =>
    rw [htarget] at htarget'
    cases htarget'
    exact .inr ⟨hrank, rfl, rfl⟩
  -- questions are no moves
  | remembered hanswer =>
    rw [Frame.answer?_of_target htarget] at hanswer
    cases hanswer
  | metadata => cases htarget
  | documents => cases htarget

/-- A question has an answer, and that is remembered. -/
theorem Frame.Takes.question (h : frame.Takes entity op r frame') (htarget : op.target? = none) :
    ∃ reply, r = .ok reply ∧ frame'.answer? op = some reply := by
  cases h with
  | advanced => cases htarget
  | resolved => cases htarget
  | refused htarget' =>
    rw [htarget] at htarget'
    cases htarget'
  | remembered hanswer => exact ⟨_, rfl, hanswer⟩
  | metadata => exact ⟨_, rfl, rfl⟩
  | @documents format answer remarks hnone =>
    refine ⟨_, rfl, ?_⟩
    show (List.lookup format ((format, answer) :: frame.documents)).map _ = _
    rw [List.lookup_cons, beq_self_eq_true]
    rfl

/-- An answer that is remembered is given. -/
theorem Frame.Takes.eq_answer {reply : Reply} (h : frame.Takes entity op r frame')
    (hanswer : frame.answer? op = some reply) : r = .ok reply := by
  cases h with
  | advanced => cases hanswer
  | resolved => cases hanswer
  | refused htarget =>
    rw [Frame.answer?_of_target htarget] at hanswer
    cases hanswer
  | remembered hanswer' =>
    rw [hanswer] at hanswer'
    cases hanswer'
    rfl
  | metadata hnone =>
    rw [Frame.answer?, hnone] at hanswer
    cases hanswer
  | documents hnone =>
    rw [Frame.answer?, hnone] at hanswer
    cases hanswer

end step

/-! ## 4. Questions that are not noted -/

section unnoted

variable {entity' : Entity} {α β : Type}

theorem run_bind_pure (x : Evaluation α) (f : α → β) (frame : Frame) :
    (x >>= fun a => pure (f a)).run frame = ((x.run frame).1.map f, (x.run frame).2) := by
  rw [run_bind]
  rcases x.run frame with ⟨_ | a, frame'⟩ <;> rfl

theorem askMetadata_of_unnoted
    (h : ((Frame.askMetadata entity).run frame).2.accesses = frame.accesses) :
    (Frame.askMetadata entity').run frame = (Frame.askMetadata entity).run frame := by
  cases hcached : frame.metadata with
  | some answer => rw [askMetadata_run, askMetadata_run, hcached]
  | none =>
    -- a question is noted whatever the entity answers
    have hnoted : ((Frame.askMetadata entity).run frame).2.accesses =
        .metadata :: frame.accesses := by
      rw [askMetadata_run, hcached]
      dsimp only
      split <;> rfl
    rw [hnoted] at h
    exact absurd h (List.cons_ne_self _ _)

theorem readDocuments_of_not_admits {format : Document.Format}
    (h : format.admits entity.path = false) :
    Frame.readDocuments setting entity format = pure none := by
  rw [Frame.readDocuments, h]
  rfl

theorem askDocuments_of_unnoted (hpath : entity'.path = entity.path) {format : Document.Format}
    (h : ((Frame.askDocuments setting entity format).run frame).2.accesses = frame.accesses) :
    (Frame.askDocuments setting entity' format).run frame =
      (Frame.askDocuments setting entity format).run frame := by
  cases hcached : frame.documents.lookup format with
  | some answer => rw [askDocuments_of_some hcached, askDocuments_of_some hcached]
  | none =>
    -- without a note the answer was remembered, or nothing was asked for at all
    cases hadmits : format.admits entity.path with
    | false =>
      have hadmits' : format.admits entity'.path = false := by rw [hpath, hadmits]
      rw [askDocuments_of_none hcached, askDocuments_of_none hcached,
        readDocuments_of_not_admits hadmits, readDocuments_of_not_admits hadmits']
    | true =>
      obtain ⟨remarks, hread⟩ : ∃ remarks, (Frame.readDocuments setting entity format).run frame =
          (documentsOf setting entity format, frame.withQuestion entity format remarks) :=
        readDocuments_run format frame
      have hnoted : ((Frame.askDocuments setting entity format).run frame).2.accesses =
          .documents format :: frame.accesses := by
        cases hanswer : documentsOf setting entity format with
        | error fault =>
          rw [hanswer] at hread
          rw [askDocuments_of_error hcached hread]
          exact if_pos hadmits
        | ok answer =>
          rw [hanswer] at hread
          rw [askDocuments_of_ok hcached hread]
          exact if_pos hadmits
      rw [hnoted] at h
      exact absurd h (List.cons_ne_self _ _)

/-- An operation that notes no question does not ask the entity, so it does the same with any other
entity at the path. -/
theorem Operation.run_of_unnoted (hpath : entity'.path = entity.path) (op : Operation)
    (h : ((op.perform setting entity).run frame).2.accesses = frame.accesses) :
    (op.perform setting entity').run frame = (op.perform setting entity).run frame := by
  cases op with
  | advance next => rfl
  | resolve v => rfl
  | metadata =>
    rw [perform, run_bind_pure] at h
    rw [perform, perform, run_bind_pure, run_bind_pure, askMetadata_of_unnoted h]
  | documents format =>
    rw [perform, run_bind_pure] at h
    rw [perform, perform, run_bind_pure, run_bind_pure, askDocuments_of_unnoted hpath h]

end unnoted

/-! ## 5. Sequences of operations -/

structure Performed where
  entity : Entity
  operation : Operation
  before : Frame
  reply : Except EvaluationFault Reply
  after : Frame

/-- Carries out operations one after the other.  The entity comes with each of them, because it may
have changed in between. -/
def history (setting : Setting) : Frame → List (Entity × Operation) → List Performed
  | _, [] => []
  | frame, (entity, op) :: rest =>
    let result := (op.perform setting entity).run frame
    ⟨entity, op, frame, result.1, result.2⟩ :: history setting result.2 rest

theorem run_of_mem_history {steps : List (Entity × Operation)} {t : Performed}
    (ht : t ∈ history setting frame steps) : (t.entity, t.operation) ∈ steps ∧
      (t.operation.perform setting t.entity).run t.before = (t.reply, t.after) := by
  induction steps generalizing frame with
  | nil => cases ht
  | cons step rest ih =>
    rw [history, List.mem_cons] at ht
    cases ht with
    | inl hfirst =>
      rw [hfirst]
      exact ⟨List.mem_cons_self, rfl⟩
    | inr hlater => exact ⟨List.mem_cons_of_mem _ (ih hlater).1, (ih hlater).2⟩

section run

variable {steps : List (Entity × Operation)}
  (hsteps : ∀ step ∈ steps, Entity.AnswersAt path step.1)

include hsteps

theorem takes_of_mem_history {t : Performed} (ht : t ∈ history setting frame steps) :
    t.before.Takes t.entity t.operation t.reply t.after := by
  obtain ⟨hmem, hrun⟩ := run_of_mem_history ht
  have htakes : t.before.Takes t.entity t.operation
      ((t.operation.perform setting t.entity).run t.before).1
      ((t.operation.perform setting t.entity).run t.before).2 :=
    takes_perform (hsteps _ hmem) t.operation t.before
  rw [hrun] at htakes
  exact htakes

theorem kept_of_mem_history (h : frame.Kept path) {t : Performed}
    (ht : t ∈ history setting frame steps) : frame.Extends t.before ∧ t.before.Kept path := by
  induction steps generalizing frame with
  | nil => cases ht
  | cons step rest ih =>
    rw [List.forall_mem_cons] at hsteps
    have htakes : frame.Takes step.1 step.2 ((step.2.perform setting step.1).run frame).1
      ((step.2.perform setting step.1).run frame).2 := takes_perform hsteps.1 step.2 frame
    rw [history, List.mem_cons] at ht
    cases ht with
    | inl hfirst =>
      rw [hfirst]
      exact ⟨.refl frame, h⟩
    | inr hlater =>
      obtain ⟨hextends, hkept⟩ := ih hsteps.2 (h.takes hsteps.1.path htakes) hlater
      exact ⟨(h.extends htakes).trans hextends, hkept⟩

/-- Each state of a sequence extends all those before it. -/
theorem pairwise_history (h : frame.Kept path) :
    (history setting frame steps).Pairwise fun t u => t.after.Extends u.before := by
  induction steps generalizing frame with
  | nil => exact .nil
  | cons step rest ih =>
    rw [List.forall_mem_cons] at hsteps
    have htakes : frame.Takes step.1 step.2 ((step.2.perform setting step.1).run frame).1
      ((step.2.perform setting step.1).run frame).2 := takes_perform hsteps.1 step.2 frame
    have hnext := h.takes hsteps.1.path htakes
    exact .cons (fun u hu => (kept_of_mem_history hsteps.2 hnext hu).1) (ih hsteps.2 hnext)

end run

/-- Operations in any order, on an entity that answers or fails differently every time.  Phases go
forwards, and a move that is refused changes nothing; a verdict is final; the entity is asked for nothing
twice, and for documents only in a format of its path; and the same question has the same answer. -/
theorem history_isOrderly {steps : List (Entity × Operation)}
    (hsteps : ∀ step ∈ steps, Entity.AnswersAt path step.1) (setting : Setting) (e : Expr) :
    let performed := history setting { expr := e } steps
    (∀ t ∈ performed, t.before.phase.rank ≤ t.after.phase.rank ∧
      ∀ next, t.operation.target? = some next →
        (t.before.phase.rank < t.after.phase.rank ∧ t.after.phase = next ∧
          ∃ reply, t.reply = .ok reply) ∨
        (next.rank ≤ t.before.phase.rank ∧ t.after = t.before ∧
          t.reply = .error (.phase t.before.phase next))) ∧
    (performed.Pairwise fun t u => t.after.phase.rank ≤ u.after.phase.rank ∧
      ∀ v, t.after.verdict = some v → u.after.verdict = some v) ∧
    (∀ t ∈ performed, t.after.accesses.Nodup ∧
      (∀ format, .documents format ∈ t.after.accesses → format.admits path = true) ∧
      (t.after.accesses = t.before.accesses → ∀ entity, entity.path = path →
        (t.operation.perform setting entity).run t.before = (t.reply, t.after))) ∧
    performed.Pairwise fun t u => t.operation.target? = none → u.operation = t.operation →
      ∃ reply, t.reply = .ok reply ∧ u.reply = .ok reply := by
  intro performed
  have hinitial : Frame.Kept path { expr := e } := Frame.kept_initial e
  have htakes : ∀ t ∈ performed, t.before.Takes t.entity t.operation t.reply t.after := fun t ht =>
    takes_of_mem_history hsteps ht
  have hkept : ∀ t ∈ performed, t.before.Kept path := fun t ht =>
    (kept_of_mem_history hsteps hinitial ht).2
  have hextends : ∀ t ∈ performed, t.before.Extends t.after := fun t ht =>
    (hkept t ht).extends (htakes t ht)
  -- each operation extends what the one before it has left
  have hpairs : performed.Pairwise fun t u => u ∈ performed ∧ t ∈ performed ∧
      t.after.Extends u.before :=
    (List.Pairwise.and_mem.1 (pairwise_history hsteps hinitial)).imp fun h => ⟨h.2.1, h.1, h.2.2⟩
  refine ⟨fun t ht => ⟨(hextends t ht).phase, fun next => (htakes t ht).move⟩, ?_, ?_, ?_⟩
  · refine hpairs.imp fun {t u} ⟨hu, _, hbetween⟩ => ?_
    have hlater := hbetween.trans (hextends u hu)
    exact ⟨hlater.phase, hlater.verdict⟩
  · intro t ht
    obtain ⟨hmem, hrun⟩ := run_of_mem_history ht
    have hpath := (hsteps _ hmem).path
    have hafter := (hkept t ht).takes hpath (htakes t ht)
    refine ⟨hafter.recorded.nodup, hafter.admitted, fun hunnoted entity hentity => ?_⟩
    rw [← hrun]
    refine t.operation.run_of_unnoted (hentity.trans hpath.symm) ?_
    rw [hrun]
    exact hunnoted
  · refine hpairs.imp fun {t u} ⟨hu, ht, hbetween⟩ hquestion hsame => ?_
    obtain ⟨reply, hreply, hanswer⟩ := (htakes t ht).question hquestion
    refine ⟨reply, hreply, (htakes u hu).eq_answer ?_⟩
    rw [hsame]
    exact hbetween.answer _ _ hanswer

/-- Metadata and a document that cannot be read at first are missing ever after, and the verdict stays
what it was. -/
theorem history_isOrderly_failing :
    let failing : Entity := {
      path := "a.json"
      metadata := .error (.unavailable ⟨.missing, ""⟩)
      documents := fun _ _ => .error (.unusable ⟨.json, .parseError⟩)
      content := fun _ => ⟨[], none⟩ }
    let readable : Entity := {
      failing with
      metadata := .ok { type := .file }
      documents := fun _ _ => .ok [] }
    let steps : List (Entity × Operation) := [.metadata, .documents .json].map (failing, ·) ++
      [.advance (.pending .structured), .advance (.pending .metadata), .metadata, .documents .json,
        .resolve .accepted, .resolve .rejected].map (readable, ·)
    let performed := history {} { expr := .known true } steps
    (∀ step ∈ steps, Entity.AnswersAt "a.json" step.1) ∧
      performed.map (·.after.phase.rank) = [1, 1, 3, 3, 3, 3, 5, 5] ∧
      performed.map (·.after.accesses.length) = [1, 2, 2, 2, 2, 2, 2, 2] ∧
      performed.map (·.after.verdict) =
        [none, none, none, none, none, none, some .accepted, some .accepted] ∧
      performed.Pairwise fun t u => t.operation.target? = none → u.operation = t.operation →
        ∃ reply, t.reply = .ok reply ∧ u.reply = .ok reply := by
  intro failing readable steps performed
  have hfailing : Entity.AnswersAt "a.json" failing :=
    ⟨rfl, fun _ h => by cases h; exact ⟨_, rfl⟩, fun _ _ _ h => by cases h; exact .inr ⟨_, rfl⟩⟩
  have hreadable : Entity.AnswersAt "a.json" readable := ⟨rfl, nofun, nofun⟩
  have hsteps : ∀ step ∈ steps, Entity.AnswersAt "a.json" step.1 := by
    intro step hstep
    rw [List.mem_append, List.mem_map, List.mem_map] at hstep
    rcases hstep with ⟨op, -, rfl⟩ | ⟨op, -, rfl⟩
    · exact hfailing
    · exact hreadable
  have hranks : performed.map (·.after.phase.rank) = [1, 1, 3, 3, 3, 3, 5, 5] := by decide +kernel
  have haccesses : performed.map (·.after.accesses.length) = [1, 2, 2, 2, 2, 2, 2, 2] := by
    decide +kernel
  have hverdicts : performed.map (·.after.verdict) =
      [none, none, none, none, none, none, some .accepted, some .accepted] := by decide +kernel
  have horderly := history_isOrderly hsteps {} (.known true)
  exact ⟨hsteps, hranks, haccesses, hverdicts, horderly.2.2.2⟩

end FileQuery.Query
