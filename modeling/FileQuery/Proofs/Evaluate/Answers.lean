import FileQuery.Evaluate.Verdict
import FileQuery.Proofs.Evaluate.Fold
import FileQuery.Proofs.Evaluate.Scan

/-!
# An evaluation without its state

The state of an evaluation holds what the entity has answered so far, and only that.  So what a step
finds out does not depend on the steps before it, and the whole evaluation is a function of the
setting, the entity and the tree: `decideFrom`.
-/

namespace FileQuery.Query

variable {setting : Setting} {entity : Entity} {α β : Type}

/-! ## 1. What an entity answers -/

def metadataOf (entity : Entity) : Except EvaluationFault (Option Metadata) :=
  match entity.metadata with
  | .ok m => .ok (some m)
  | .error (.unavailable _) => .ok none
  | .error fault => .error (.access fault)

def documentsOf (setting : Setting) (entity : Entity) (format : Document.Format) :
    Except EvaluationFault (Option (List Document.Root)) :=
  if !format.admits entity.path then .ok none
  else
    match entity.documents format setting.config.maxDocumentSize with
    | .ok roots => .ok (some roots)
    | .error (.unavailable _) => .ok none
    | .error (.unusable _) => .ok none
    | .error fault => .error (.access fault)

/-- There is an answer if metadata are unavailable at worst. -/
theorem exists_metadataOf
    (h : ∀ fault, entity.metadata = .error fault → ∃ u, fault = .unavailable u) :
    ∃ answer, metadataOf entity = .ok answer := by
  unfold metadataOf
  split
  · exact ⟨_, rfl⟩
  · exact ⟨_, rfl⟩
  · next fault hunforeseen hfault =>
    obtain ⟨u, rfl⟩ := h fault hfault
    exact absurd rfl (hunforeseen u)

/-- There is an answer if documents are unavailable or unusable at worst. -/
theorem exists_documentsOf
    (h : ∀ format size fault, entity.documents format size = .error fault →
      (∃ u, fault = .unavailable u) ∨ ∃ u, fault = .unusable u) (format : Document.Format) :
    ∃ answer, documentsOf setting entity format = .ok answer := by
  unfold documentsOf
  split
  · exact ⟨_, rfl⟩
  · split
    · exact ⟨_, rfl⟩
    · exact ⟨_, rfl⟩
    · exact ⟨_, rfl⟩
    · next fault hunavailable hunusable hfault =>
      rcases h _ _ fault hfault with ⟨u, rfl⟩ | ⟨u, rfl⟩
      · exact absurd rfl (hunavailable u)
      · exact absurd rfl (hunusable u)

/-- A state that holds answers of the entity and no others. -/
structure Frame.Faithful (setting : Setting) (entity : Entity) (frame : Frame) : Prop where
  metadata : ∀ answer, frame.metadata = some answer → metadataOf entity = .ok answer
  documents : ∀ format answer, frame.documents.lookup format = some answer →
    documentsOf setting entity format = .ok answer

theorem Frame.faithful_initial (e : Expr) : Frame.Faithful setting entity { expr := e } :=
  ⟨nofun, nofun⟩

/-! ## 2. Steps whose answers do not depend on the state -/

/-- A step answers `r` in every faithful state, and if it does not fail, the state stays faithful and
in its phase. -/
def Answers (setting : Setting) (entity : Entity) (x : Evaluation α)
    (r : Except EvaluationFault α) : Prop :=
  ∀ frame : Frame, frame.Faithful setting entity → (x.run frame).1 = r ∧
    ∀ a, r = .ok a → (x.run frame).2.Faithful setting entity ∧
      (x.run frame).2.phase = frame.phase

theorem run_bind (x : Evaluation α) (f : α → Evaluation β) (frame : Frame) :
    (x >>= f).run frame =
      match x.run frame with
      | (.ok a, frame') => (f a).run frame'
      | (.error e, frame') => (.error e, frame') := by
  show (match x.run frame with
    | (r, frame') => ExceptT.bindCont f r frame') = _
  rcases x.run frame with ⟨_ | a, frame'⟩ <;> rfl

namespace Answers

theorem ok (a : α) : Answers setting entity (pure a) (.ok a) :=
  fun _ h => ⟨rfl, fun _ _ => ⟨h, rfl⟩⟩

theorem error (e : EvaluationFault) : Answers setting entity (throw e : Evaluation α) (.error e) :=
  fun _ _ => ⟨rfl, fun _ h => by cases h⟩

theorem bind {x : Evaluation α} {r : Except EvaluationFault α} {f : α → Evaluation β}
    {g : α → Except EvaluationFault β} (hx : Answers setting entity x r)
    (hf : ∀ a, r = .ok a → Answers setting entity (f a) (g a)) :
    Answers setting entity (x >>= f) (r >>= g) := by
  intro frame hframe
  obtain ⟨hr, hstate⟩ := hx frame hframe
  rw [run_bind]
  rcases hxr : x.run frame with ⟨a | a, frame'⟩
  · rw [hxr] at hr
    subst hr
    exact ⟨rfl, fun _ h => by cases h⟩
  · rw [hxr] at hr hstate
    subst hr
    obtain ⟨hfaithful, hphase⟩ := hstate a rfl
    -- the second step starts in the state that the first one leaves
    obtain ⟨hr', hstate'⟩ := hf a rfl frame' hfaithful
    refine ⟨hr', fun b hb => ⟨(hstate' b hb).1, (hstate' b hb).2.trans hphase⟩⟩

/-- A step that always succeeds can come first. -/
theorem after {x : Evaluation α} {a : α} {f : α → Evaluation β} {r : Except EvaluationFault β}
    (hx : Answers setting entity x (.ok a)) (hf : Answers setting entity (f a) r) :
    Answers setting entity (x >>= f) r :=
  bind hx (g := fun _ => r) fun _ ha => by cases ha; exact hf

theorem update {f : Frame → Frame}
    (h : ∀ frame, frame.Faithful setting entity →
      (f frame).Faithful setting entity ∧ (f frame).phase = frame.phase) :
    Answers setting entity (modify f) (.ok ()) :=
  fun frame hframe => ⟨rfl, fun _ _ => h frame hframe⟩

theorem note (a : Access) : Answers setting entity (Frame.note a) (.ok ()) :=
  update fun _ h => ⟨⟨h.metadata, h.documents⟩, rfl⟩

theorem remark (r : Remark) : Answers setting entity (Frame.remark r) (.ok ()) :=
  update fun _ h => ⟨⟨h.metadata, h.documents⟩, rfl⟩

theorem lift (r : Except EvaluationFault α) : Answers setting entity (lift r) r := by
  cases r with
  | ok a => exact ok a
  | error e => exact error e

end Answers

/-! ## 3. Asking the entity -/

def Frame.withMetadata (frame : Frame) (answer : Option Metadata) (remarks : List Remark) : Frame :=
  { frame with
    accesses := .metadata :: frame.accesses, metadata := some answer, remarks := remarks }

theorem askMetadata_run (frame : Frame) :
    (Frame.askMetadata entity).run frame =
      match frame.metadata with
      | some answer => (.ok answer, frame)
      | none =>
        match entity.metadata with
        | .ok m => (.ok (some m), frame.withMetadata (some m) frame.remarks)
        | .error (.unavailable u) =>
          (.ok none, frame.withMetadata none (.noMetadata u :: frame.remarks))
        | .error fault => (.error (.access fault), frame.withMetadata none frame.remarks) := by
  obtain ⟨expr, phase, verdict, metadata, documents, accesses, remarks, chunksRead⟩ := frame
  cases metadata with
  | some answer => rfl
  | none =>
    obtain ⟨path, answer, documentsAt, content⟩ := entity
    rcases answer with (_ | _ | _ | _ | _) | _ <;> rfl

theorem Frame.Faithful.withMetadata {frame : Frame} (h : frame.Faithful setting entity)
    {answer : Option Metadata} (hanswer : metadataOf entity = .ok answer) (remarks : List Remark) :
    (frame.withMetadata answer remarks).Faithful setting entity where
  metadata := by
    rintro answer' ⟨⟩
    exact hanswer
  documents := h.documents

/-- The first answer is remembered, also where it is that nothing can be read. -/
theorem Answers.askMetadata :
    Answers setting entity (Frame.askMetadata entity) (metadataOf entity) := by
  intro frame hframe
  rw [askMetadata_run]
  split
  · next answer hcached =>
    rw [hframe.metadata answer hcached]
    exact ⟨rfl, fun _ _ => ⟨hframe, rfl⟩⟩
  · -- asked for the first time: they can be read, cannot be read, or break the evaluation off
    split
    · next m hm =>
      have hanswer : metadataOf entity = .ok (some m) := by rw [metadataOf, hm]
      exact ⟨hanswer.symm, fun _ _ => ⟨hframe.withMetadata hanswer _, rfl⟩⟩
    · next u hu =>
      have hanswer : metadataOf entity = .ok none := by rw [metadataOf, hu]
      exact ⟨hanswer.symm, fun _ _ => ⟨hframe.withMetadata hanswer _, rfl⟩⟩
    · next fault hunforeseen hfault =>
      have hanswer : metadataOf entity = .error (.access fault) := by
        rw [metadataOf, hfault]
        cases fault <;> first | rfl | exact absurd rfl (hunforeseen _)
      rw [hanswer]
      exact ⟨rfl, nofun⟩

theorem Answers.readDocuments (format : Document.Format) :
    Answers setting entity (Frame.readDocuments setting entity format)
      (documentsOf setting entity format) := by
  unfold Frame.readDocuments documentsOf
  cases !format.admits entity.path with
  | true => exact .ok none
  | false =>
    refine .after (.note _) ?_
    cases entity.documents format setting.config.maxDocumentSize with
    | ok roots => exact .ok (some roots)
    | error fault =>
      cases fault with
      | unavailable u => exact .after (.remark _) (.ok none)
      | unusable u => exact .after (.remark _) (.ok none)
      | _ => exact .error _

theorem Frame.Faithful.withDocuments {frame : Frame} (h : frame.Faithful setting entity)
    {format : Document.Format} {answer : Option (List Document.Root)}
    (hanswer : documentsOf setting entity format = .ok answer) :
    Frame.Faithful setting entity
      { frame with documents := (format, answer) :: frame.documents } where
  metadata := h.metadata
  documents format' answer' hlookup := by
    rw [List.lookup_cons] at hlookup
    split at hlookup
    · next hformat =>
      cases hlookup
      rw [eq_of_beq hformat]
      exact hanswer
    · exact h.documents format' answer' hlookup

/-- Reading documents and remembering them. -/
theorem Answers.readDocuments_remembered (format : Document.Format) :
    Answers setting entity (do
      let answer ← Frame.readDocuments setting entity format
      modify fun frame => { frame with documents := (format, answer) :: frame.documents }
      return answer) (documentsOf setting entity format) := by
  rw [← bind_pure_ok (documentsOf setting entity format)]
  refine (Answers.readDocuments format).bind fun answer hanswer => ?_
  refine Answers.after (Answers.update fun frame h => ?_) (Answers.ok answer)
  exact ⟨h.withDocuments hanswer, rfl⟩

theorem askDocuments_run (frame : Frame) (format : Document.Format) :
    (Frame.askDocuments setting entity format).run frame =
      match frame.documents.lookup format with
      | some answer => (.ok answer, frame)
      | none => ExceptT.run (do
          let answer ← Frame.readDocuments setting entity format
          modify fun frame => { frame with documents := (format, answer) :: frame.documents }
          return answer) frame := by
  have hget : ∀ f : Frame, ExceptT.run (get : Evaluation Frame) f = (.ok f, f) := fun _ => rfl
  rw [Frame.askDocuments, run_bind, hget]
  dsimp only
  cases frame.documents.lookup format <;> rfl

theorem askDocuments_of_some {frame : Frame} {format : Document.Format}
    {answer : Option (List Document.Root)} (h : frame.documents.lookup format = some answer) :
    (Frame.askDocuments setting entity format).run frame = (.ok answer, frame) := by
  rw [askDocuments_run, h]

theorem askDocuments_of_none {frame : Frame} {format : Document.Format}
    (h : frame.documents.lookup format = none) :
    (Frame.askDocuments setting entity format).run frame = ExceptT.run (do
      let answer ← Frame.readDocuments setting entity format
      modify fun frame => { frame with documents := (format, answer) :: frame.documents }
      return answer) frame := by
  rw [askDocuments_run, h]

/-- Documents are read once for each format, also where there are none. -/
theorem Answers.askDocuments (format : Document.Format) :
    Answers setting entity (Frame.askDocuments setting entity format)
      (documentsOf setting entity format) := by
  intro frame hframe
  cases hcached : frame.documents.lookup format with
  | some answer =>
    rw [askDocuments_of_some hcached, hframe.documents format answer hcached]
    exact ⟨rfl, fun _ _ => ⟨hframe, rfl⟩⟩
  | none =>
    rw [askDocuments_of_none hcached]
    exact Answers.readDocuments_remembered format frame hframe

/-! ## 4. Deciding predicates -/

def comparisonAnswer (r : Except CompareFault Bool) : Except EvaluationFault (Option Bool) :=
  match r with
  | .ok b => .ok (some b)
  | .error fault => .error (.compare fault)

def nameAnswer (entity : Entity) (p : Predicate) : Except EvaluationFault (Option Bool) :=
  match p.selector.nameValue? entity.path with
  | some (.text s) => comparisonAnswer (compareText p.op p.operand s)
  | some (.count n) => comparisonAnswer (compareNumber p.op p.operand n)
  | none => .ok none

def metadataVerdict (setting : Setting) (p : Predicate) (m : Metadata) :
    Except EvaluationFault (Option Bool) :=
  match p.selector with
  | .type => comparisonAnswer (compareType p.op p.operand m.type)
  | .size =>
    match m.size with
    | some size => comparisonAnswer (compareNumber p.op p.operand size)
    | none => .ok (some false)
  | selector =>
    match Metadata.moment? m selector with
    | some moment => comparisonAnswer (compareMoment setting.zone p.op p.operand moment)
    | none => .ok (some false)

def metadataAnswer (setting : Setting) (entity : Entity) (p : Predicate) :
    Except EvaluationFault (Option Bool) :=
  if p.category != .metadata then .ok none
  else do
    match ← metadataOf entity with
    | none => .ok (some false)
    | some m => metadataVerdict setting p m

/-- What given documents tell of a condition; where it is foreseen that a value cannot be compared,
that it does not hold. -/
def documentVerdict (setting : Setting) (m : Document.Matcher) (roots : List Document.Root) :
    Except EvaluationFault (Option Bool) :=
  match m.holds setting.textLimit roots with
  | .ok b => .ok (some b)
  | .error fault => if fault.isForeseen then .ok (some false) else .error (.text fault)

def documentAnswer (setting : Setting) (entity : Entity) (p : Predicate) :
    Except EvaluationFault (Option Bool) :=
  match p.operand with
  | .document m => do
    match ← documentsOf setting entity m.format with
    | none => .ok (some false)
    | some roots => documentVerdict setting m roots
  | _ => .ok none

namespace Answers

theorem answerOf (r : Except CompareFault Bool) :
    Answers setting entity (answerOf r) (comparisonAnswer r) := by
  cases r with
  | ok b => exact ok (some b)
  | error fault => exact error (.compare fault)

theorem resolveName (p : Predicate) :
    Answers setting entity (resolveName entity p) (nameAnswer entity p) := by
  unfold Query.resolveName nameAnswer
  cases p.selector.nameValue? entity.path with
  | none => exact ok none
  | some value =>
    cases value with
    | text s => exact answerOf _
    | count n => exact answerOf _

theorem resolveMetadata (p : Predicate) :
    Answers setting entity (resolveMetadata setting entity p) (metadataAnswer setting entity p) := by
  unfold Query.resolveMetadata metadataAnswer
  cases p.category != .metadata with
  | true => exact ok none
  | false =>
    refine askMetadata.bind fun answer _ => ?_
    cases answer with
    | none => exact ok (some false)
    | some m =>
      unfold metadataVerdict
      cases p.selector with
      | type => exact answerOf _
      | size =>
        dsimp only
        cases m.size with
        | none => exact ok (some false)
        | some size => exact answerOf _
      | _ =>
        dsimp only
        cases Metadata.moment? m _ with
        | none => exact ok (some false)
        | some moment => exact answerOf _

theorem resolveDocument (p : Predicate) :
    Answers setting entity (resolveDocument setting entity p) (documentAnswer setting entity p) := by
  unfold Query.resolveDocument documentAnswer
  cases p.operand with
  | document m =>
    refine (askDocuments m.format).bind fun answer _ => ?_
    cases answer with
    | none => exact ok (some false)
    | some roots =>
      unfold documentVerdict
      dsimp only
      cases m.holds setting.textLimit roots with
      | ok b => exact ok (some b)
      | error fault =>
        dsimp only
        cases fault.isForeseen with
        | true => exact after (remark _) (ok (some false))
        | false => exact error (.text fault)
  | _ => exact ok none

/-- A tree is folded with the answers of its predicates. -/
theorem fold {resolve : Predicate → Evaluation (Option Bool)}
    {ans : Predicate → Except EvaluationFault (Option Bool)}
    (h : ∀ p, Answers setting entity (resolve p) (ans p)) (e : Expr) :
    Answers setting entity (e.fold resolve) (e.reduce ans) := by
  rw [Expr.fold_eq_reduce]
  exact Expr.reduce_related resolve ans ok (fun hx hf => hx.bind fun a _ => hf a) e fun p _ => h p

end Answers

/-! ## 5. The content -/

/-- The scanners after a pass, if nothing unforeseen happened. -/
def scannersLeft (scanned : Content.Scanned AccessFault) :
    Except EvaluationFault (List Content.Scanner) :=
  match scanned.fault with
  | none => .ok scanned.scanners
  | some (.unavailable _) => .ok (scanned.scanners.map Content.Scanner.abort)
  | some fault => .error (.access fault)

def contentReduced (setting : Setting) (entity : Entity) (e : Expr) :
    Except EvaluationFault Expr := do
  let scanned ← Content.scan setting.lines e.isSettledBy (entity.content setting.config.chunkSize)
    (e.contentMatchers.map Content.Scanner.start)
  let scanners ← scannersLeft scanned
  e.withFinished scanners

theorem Answers.scannersAfter (scanned : Content.Scanned AccessFault) :
    Answers setting entity (scannersAfter scanned) (scannersLeft scanned) := by
  unfold Query.scannersAfter scannersLeft
  cases scanned.fault with
  | none => exact .ok _
  | some fault =>
    cases fault with
    | unavailable u => exact .after (.remark _) (.ok _)
    | _ => exact .error _

theorem Answers.resolveContent (e : Expr) :
    Answers setting entity (resolveContent setting entity e) (contentReduced setting entity e) := by
  unfold Query.resolveContent contentReduced
  refine .after (.note _) ?_
  refine (Answers.lift _).bind fun scanned _ => ?_
  refine .after (.update fun _ h => ⟨⟨h.metadata, h.documents⟩, rfl⟩) ?_
  have hrest : Answers setting entity
      (Query.scannersAfter scanned >>= fun scanners => Query.lift (e.withFinished scanners))
      (scannersLeft scanned >>= e.withFinished) :=
    (Answers.scannersAfter scanned).bind fun scanners _ => .lift (e.withFinished scanners)
  cases scanned.undecodable with
  | none => exact hrest
  | some fault => exact .after (.remark _) hrest

/-! ## 6. The whole evaluation -/

def categoryReduced (setting : Setting) (entity : Entity) (c : Category) (e : Expr) :
    Except EvaluationFault Expr :=
  match c with
  | .name => e.reduce (nameAnswer entity)
  | .metadata => e.reduce (metadataAnswer setting entity)
  | .structured => e.reduce (documentAnswer setting entity)
  | .content => contentReduced setting entity e

theorem Answers.resolveCategory (c : Category) (e : Expr) :
    Answers setting entity (resolveCategory setting entity c e)
      (categoryReduced setting entity c e) := by
  cases c with
  | name => exact .fold .resolveName e
  | metadata => exact .fold .resolveMetadata e
  | structured => exact .fold .resolveDocument e
  | content => exact .resolveContent e

def decideFrom (setting : Setting) (entity : Entity) :
    List Category → Expr → Except EvaluationFault Resolution
  | [], _ => .error .unresolved
  | c :: rest, e => do
    let e ← categoryReduced setting entity c e
    match e.known? with
    | some b => .ok ⟨.ofBool b, c⟩
    | none => decideFrom setting entity rest e

/-- Categories in an order in which evaluations may go through them. -/
def Ascending (phase : Phase) (cs : List Category) : Prop :=
  (∀ c ∈ cs, phase.rank ≤ (Phase.pending c).rank) ∧
    cs.Pairwise fun c d => (Phase.pending c).rank < (Phase.pending d).rank

/-- The phases still to come lie above the one that was entered. -/
theorem Ascending.tail {phase next : Phase} {c : Category} {rest : List Category}
    (h : Ascending phase (c :: rest)) (hnext : next = .pending c) : Ascending next rest := by
  have hpairs := List.pairwise_cons.1 h.2
  rw [hnext]
  exact ⟨fun d hd => Nat.le_of_lt (hpairs.1 d hd), hpairs.2⟩

theorem Phase.eq_of_rank_eq {a b : Phase} (h : a.rank = b.rank) : a = b := by
  rcases a with (_ | _ | _ | _) | _ <;> rcases b with (_ | _ | _ | _) | _ <;>
    first | rfl | (revert h; decide)

theorem Frame.advance_run {frame : Frame} {next : Phase} (h : frame.phase.rank < next.rank) :
    (Frame.advance next).run frame = (.ok (), { frame with phase := next }) := by
  have hrun : (Frame.advance next).run frame = ExceptT.run (do
      if next.rank ≤ frame.phase.rank then throw (.phase frame.phase next)
      modify ({ · with phase := next }) : Evaluation Unit) frame := rfl
  rw [hrun, if_neg (Nat.not_le.2 h)]
  rfl

theorem Frame.enter_run {frame : Frame} {c : Category}
    (h : frame.phase.rank ≤ (Phase.pending c).rank) :
    (Frame.enter c).run frame = (.ok (), { frame with phase := .pending c }) := by
  have hrun : (Frame.enter c).run frame = ExceptT.run
      (if frame.phase != .pending c then Frame.advance (.pending c) else pure ()) frame := rfl
  rw [hrun]
  by_cases hphase : frame.phase = .pending c
  · rw [if_neg (by simpa using hphase), ← hphase]
    rfl
  · rw [if_pos (by simpa using hphase)]
    have hrank := fun heq => hphase (Phase.eq_of_rank_eq heq)
    exact Frame.advance_run (Nat.lt_of_le_of_ne h hrank)

/-- The state of an evaluation that a category has decided. -/
def Frame.concluded (frame : Frame) (c : Category) (b : Bool) : Frame :=
  { frame with
    remarks := .decided c :: frame.remarks, phase := .resolved, verdict := some (.ofBool b) }

theorem conclude_run {frame : Frame} {c : Category} (h : frame.phase = .pending c) (b : Bool) :
    (conclude c b).run frame = (.ok ⟨.ofBool b, c⟩, frame.concluded c b) := by
  obtain ⟨expr, phase, verdict, metadata, documents, accesses, remarks, chunksRead⟩ := frame
  cases h
  cases c <;> rfl

/-- A category that is next is decided, and then the verdict is known or the other categories
follow. -/
theorem resolveAll_cons_run {frame : Frame} {c : Category}
    (h : frame.phase.rank ≤ (Phase.pending c).rank) (rest : List Category) :
    (resolveAll setting entity (c :: rest)).run frame =
      match (resolveCategory setting entity c frame.expr).run { frame with phase := .pending c } with
      | (.error fault, frame') => (.error fault, frame')
      | (.ok e, frame') =>
        match e.known? with
        | some b => (conclude c b).run { frame' with expr := e }
        | none => (resolveAll setting entity rest).run { frame' with expr := e } := by
  have hget : ∀ f : Frame, ExceptT.run (get : Evaluation Frame) f = (.ok f, f) := fun _ => rfl
  rw [resolveAll, run_bind, Frame.enter_run h]
  dsimp only
  rw [run_bind, hget]
  dsimp only
  rw [run_bind]
  generalize (resolveCategory setting entity c frame.expr).run
    { frame with phase := .pending c } = result
  -- the category fails, or leaves a tree
  rcases result with ⟨fault | e, frame'⟩
  · rfl
  · show ExceptT.run (match e.known? with
      | some b => conclude c b
      | none => resolveAll setting entity rest : Evaluation Resolution) { frame' with expr := e } =
      match e.known? with
      | some b => (conclude c b).run { frame' with expr := e }
      | none => (resolveAll setting entity rest).run { frame' with expr := e }
    cases e.known? <;> rfl

theorem resolveAll_run {cs : List Category} {frame : Frame}
    (hframe : frame.Faithful setting entity) (hphase : Ascending frame.phase cs) :
    ((resolveAll setting entity cs).run frame).1 = decideFrom setting entity cs frame.expr := by
  induction cs generalizing frame with
  | nil => rfl
  | cons c rest ih =>
    have hentered : Frame.Faithful setting entity { frame with phase := .pending c } :=
      ⟨hframe.metadata, hframe.documents⟩
    obtain ⟨hanswer, hstate⟩ := Answers.resolveCategory c frame.expr _ hentered
    rw [resolveAll_cons_run (hphase.1 c List.mem_cons_self), decideFrom, ← hanswer]
    rw [← hanswer] at hstate
    -- of the state after the category only that it is faithful and in its phase is used
    generalize (resolveCategory setting entity c frame.expr).run
      { frame with phase := .pending c } = result at hstate ⊢
    rcases result with ⟨fault | e, frame'⟩
    · rfl
    · obtain ⟨hfaithful, hpending⟩ := hstate e rfl
      show (match e.known? with
        | some b => (conclude c b).run { frame' with expr := e }
        | none => (resolveAll setting entity rest).run { frame' with expr := e }).1 =
        match e.known? with
        | some b => .ok ⟨.ofBool b, c⟩
        | none => decideFrom setting entity rest e
      cases e.known? with
      | some b =>
        have hentry : ({ frame' with expr := e } : Frame).phase = .pending c := hpending
        exact congrArg Prod.fst (conclude_run hentry b)
      | none => exact ih ⟨hfaithful.metadata, hfaithful.documents⟩ (hphase.tail hpending)

theorem ascending_categories : Ascending (.pending .name) categories := ⟨by decide, by decide⟩

/-- An evaluation decides the query category after category, whatever it remembers. -/
theorem evaluate_eq_decideFrom (setting : Setting) (entity : Entity) (e : Expr) :
    (e.evaluate setting entity).1 = decideFrom setting entity categories e :=
  resolveAll_run (Frame.faithful_initial e) ascending_categories

end FileQuery.Query
