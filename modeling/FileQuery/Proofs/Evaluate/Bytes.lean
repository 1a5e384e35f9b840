import FileQuery.Document.Yaml
import FileQuery.Git.Entity
import FileQuery.Proofs.Document.Loading
import FileQuery.Proofs.Evaluate.Causes
import FileQuery.Tree.Entity
import Mathlib.Control.Monad.Basic

/-!
# Queries of bytes

The documents of an entity are read from bytes, which can be anything.  Bytes that are no document make
the predicates that ask for one false.  An evaluation fails only where the reader of a format breaks off,
or where a value in a document of YAML has no text for a reason that is not foreseen.
-/

namespace FileQuery.Query

variable {readers : Document.Readers} {setting : Setting} {entity : Entity} {bytes : List UInt8}
  {e : Expr}
  {fault : EvaluationFault}

/-! ## 1. Entities with bytes -/

/-- An entity whose documents are read from some bytes.  It may be unavailable, and it may refuse
documents without reading them. -/
structure Entity.HasBytes (readers : Document.Readers) (config : Config) (bytes : List UInt8)
    (entity : Entity) : Prop where
  metadata : ∀ fault, entity.metadata = .error fault → ∃ u, fault = .unavailable u
  documents : ∀ format,
    (∃ u, entity.documents format config.maxDocumentSize = .error (.unavailable u)) ∨
    (∃ u, entity.documents format config.maxDocumentSize = .error (.unusable u)) ∨
    entity.documents format config.maxDocumentSize =
      (Document.load readers format bytes).mapError .ofLoad
  content : ∀ fault, (entity.content config.chunkSize).fault = some fault →
    ∃ u, fault = .unavailable u

theorem Entity.HasBytes.load_of_ok {config : Config} (h : Entity.HasBytes readers config bytes entity)
    {format : Document.Format} {roots : List Document.Root}
    (hroots : entity.documents format config.maxDocumentSize = .ok roots) :
    Document.load readers format bytes = .ok roots := by
  rcases h.documents format with ⟨u, hu⟩ | ⟨u, hu⟩ | hload
  · rw [hu] at hroots
    cases hroots
  · rw [hu] at hroots
    cases hroots
  · rw [hload] at hroots
    exact mapError_eq_ok.1 hroots

theorem Entity.HasBytes.load_of_error {config : Config} (h : Entity.HasBytes readers config bytes entity)
    {format : Document.Format} {f : AccessFault}
    (hf : entity.documents format config.maxDocumentSize = .error f)
    (hunavailable : ∀ u, f ≠ .unavailable u) (hunusable : ∀ u, f ≠ .unusable u) :
    ∃ v, f = .badValue v ∧ Document.load readers format bytes = .error (.badValue v) := by
  rcases h.documents format with ⟨u, hu⟩ | ⟨u, hu⟩ | hload
  · rw [hu] at hf
    cases hf
    exact absurd rfl (hunavailable u)
  · rw [hu] at hf
    cases hf
    exact absurd rfl (hunusable u)
  · rw [hload] at hf
    obtain ⟨fault, hfault, rfl⟩ := mapError_eq_error.1 hf
    cases fault with
    | unusable u => exact absurd rfl (hunusable u)
    | badValue v => exact ⟨v, rfl, hfault⟩

/-! ## 2. How an evaluation can fail -/

/-- The ways in which bytes can break an evaluation off. -/
inductive BreaksOff (readers : Document.Readers) (setting : Setting) (path : String)
    (bytes : List UInt8) (e : Expr) : EvaluationFault → Prop
  | reading {p : Predicate} {m : Document.Matcher} {v : Document.BadValue} : p ∈ e.predicates →
      p.operand = .document m → m.format.admits path = true →
      Document.load readers m.format bytes = .error (.badValue v) →
      Document.BreaksInBytes readers m.format bytes v →
      BreaksOff readers setting path bytes e (.access (.badValue v))
  | text {p : Predicate} {m : Document.Matcher} {roots : List Document.Root}
      {fault : Document.TextFault} : p ∈ e.predicates → p.operand = .document m →
      m.format = .yaml → Document.load readers .yaml bytes = .ok roots →
      m.holds setting.textLimit roots = .error fault → fault.isForeseen = false →
      BreaksOff readers setting path bytes e (.text fault)

theorem Cause.breaksOff (hentity : Entity.HasBytes readers setting.config bytes entity)
    (h : Cause setting entity e fault) : BreaksOff readers setting entity.path bytes e fault := by
  cases h with
  | metadata _ _ hf hunavailable =>
    obtain ⟨u, rfl⟩ := hentity.metadata _ hf
    exact absurd rfl (hunavailable u)
  | @documents p m f hp hm hadmits hf hunavailable hunusable =>
    obtain ⟨v, rfl, hload⟩ := hentity.load_of_error hf hunavailable hunusable
    -- bytes that are read, and those that are refused, are answers and no faults
    rcases Document.load_cases readers m.format bytes with ⟨_, h⟩ | ⟨_, h⟩ | ⟨v', h, hbreaks⟩
    · rw [hload] at h
      cases h
    · rw [hload] at h
      cases h
    · rw [hload] at h
      cases h
      exact .reading hp hm hadmits hload hbreaks
  | @text p m roots f hp hm hroots hf hforeseen =>
    have hload := hentity.load_of_ok hroots
    by_cases hformat : m.format = .yaml
    · rw [hformat] at hload
      exact .text hp hm hformat hload hf hforeseen
    · -- plain documents have texts, unless they are too long
      have htext := m.failsForeseen_holds (Document.isPlain_load hformat hload) f hf
      rw [hforeseen] at htext
      cases htext
  | content _ _ hf hunavailable =>
    obtain ⟨u, rfl⟩ := hentity.content _ hf
    exact absurd rfl (hunavailable u)

/-! ## 3. Every evaluation -/

/-- An evaluation ends with the truth value of the query unless something in the bytes breaks it off. -/
theorem Entity.HasBytes.verdict_or_breaksOff
    (hentity : Entity.HasBytes readers setting.config bytes entity)
    (he : ∀ p ∈ e.predicates, p.WellTyped)
    (hdated : ∀ p ∈ e.predicates, p.category = .metadata → Dated setting.zone entity p) :
    (∃ r frame, e.evaluate setting entity = (.ok r, frame) ∧
      (r.verdict = .accepted ↔ e.holds (·.valueAt setting entity) = true)) ∨
    ∃ fault frame, e.evaluate setting entity = (.error fault, frame) ∧
      BreaksOff readers setting entity.path bytes e fault := by
  refine (verdict_or_cause he hdated).imp_right ?_
  rintro ⟨fault, frame, hrun, hcause⟩
  exact ⟨fault, frame, hrun, hcause.breaksOff hentity⟩

/-- Bytes are documents or unusable unless a value in them breaks the reading off, and an evaluation
ends with the truth value of the query unless such a value, or one without a text, breaks it off. -/
theorem evaluate_bytes {stack : Pattern.Stack} {clock : Clock} {query : String}
    (h : parse stack clock query = .ok e)
    (hentity : Entity.HasBytes readers setting.config bytes entity)
    (hdated : ∀ p ∈ e.predicates, p.category = .metadata → Dated setting.zone entity p) :
    (∀ format, (∃ roots, Document.load readers format bytes = .ok roots) ∨
      (∃ reason, Document.load readers format bytes = .error (.unusable ⟨format, reason⟩)) ∨
      ∃ v, Document.load readers format bytes = .error (.badValue v) ∧
        Document.BreaksInBytes readers format bytes v) ∧
    ((∃ r frame, e.evaluate setting entity = (.ok r, frame) ∧
      (r.verdict = .accepted ↔ e.holds (·.valueAt setting entity) = true)) ∨
    ∃ fault frame, e.evaluate setting entity = (.error fault, frame) ∧
      BreaksOff readers setting entity.path bytes e fault) :=
  ⟨fun format => Document.load_cases readers format bytes,
    hentity.verdict_or_breaksOff (wellTyped_of_parse h) hdated⟩

/-- An opening brace is no document of JSON, so the query for one is false and its negation is true. -/
theorem evaluate_bytes_malformed :
    let readers : Document.Readers := { yaml := Document.Yaml.library {} }
    let bytes : List UInt8 := [123]
    let entity : Entity := {
      path := "a.json"
      metadata := .error (.unavailable ⟨.missing, ""⟩)
      documents := fun format _ => (Document.load readers format bytes).mapError .ofLoad
      content := fun _ => ⟨[bytes], none⟩ }
    let e : Expr := .not (.pred ⟨.document .json, none, .document ⟨.json, [.field "a"], .exists⟩⟩)
    parse (.ofDepth 9) ⟨.fixed 0 0, .fixed 0⟩ "NOT json:.a" = .ok e ∧
      (∀ config, Entity.HasBytes readers config bytes entity) ∧
      (∀ p ∈ e.predicates, p.category = .metadata → Dated (.fixed 0) entity p) ∧
      Document.load readers .json bytes = .error (.unusable ⟨.json, .parseError⟩) ∧
      (e.evaluate {} entity).1 = .ok ⟨.accepted, .structured⟩ ∧
      e.holds (·.valueAt {} entity) = true := by
  intro readers bytes entity e
  have hparse : parse (.ofDepth 9) ⟨.fixed 0 0, .fixed 0⟩ "NOT json:.a" = .ok e := by
    with_unfolding_all rfl
  have hentity : ∀ config, Entity.HasBytes readers config bytes entity := fun config =>
    ⟨fun _ h => by cases h; exact ⟨_, rfl⟩, fun _ => .inr (.inr rfl), nofun⟩
  have hdated : ∀ p ∈ e.predicates, p.category = .metadata → Dated (.fixed 0) entity p := by
    intro p hp hcategory
    rw [List.mem_singleton.1 hp] at hcategory
    cases hcategory
  have hverdict : (e.evaluate {} entity).1 = .ok ⟨.accepted, .structured⟩ := by decide +kernel
  refine ⟨hparse, hentity, hdated, by decide +kernel, hverdict, ?_⟩
  rcases (evaluate_bytes hparse (hentity ({} : Setting).config) hdated).2 with
    ⟨r, frame, hr, hvalue⟩ | ⟨fault, frame, hr, -⟩
  · rw [hr] at hverdict
    cases hverdict
    exact hvalue.1 rfl
  · rw [hr] at hverdict
    cases hverdict

/-- The text d: 2024-13-45 is spelled like a date and is none.  It breaks the reading of YAML off, and
with it the evaluation. -/
theorem evaluate_breaksOff :
    let readers : Document.Readers := { yaml := Document.Yaml.library {} }
    let bytes : List UInt8 := [100, 58, 32, 50, 48, 50, 52, 45, 49, 51, 45, 52, 53]
    let entity : Entity := {
      path := "a.yaml"
      metadata := .error (.unavailable ⟨.missing, ""⟩)
      documents := fun format _ => (Document.load readers format bytes).mapError .ofLoad
      content := fun _ => ⟨[bytes], none⟩ }
    let e : Expr := .pred ⟨.document .yaml, some .eq,
      .document ⟨.yaml, [.field "d"], .compare .eq ⟨"1", .int 1, false⟩⟩⟩
    parse (.ofDepth 9) ⟨.fixed 0 0, .fixed 0⟩ "yaml:.d == 1" = .ok e ∧
      (∀ config, Entity.HasBytes readers config bytes entity) ∧
      Document.load readers .yaml bytes = .error (.badValue .date) ∧
      (e.evaluate {} entity).1 = .error (.access (.badValue .date)) := by
  intro readers bytes entity e
  have hentity : ∀ config, Entity.HasBytes readers config bytes entity := fun config =>
    ⟨fun _ h => by cases h; exact ⟨_, rfl⟩, fun _ => .inr (.inr rfl), nofun⟩
  exact ⟨by with_unfolding_all rfl, hentity, by decide +kernel, by decide +kernel⟩

/-! ## 4. Files -/

/-- Sizes that files can be read with. -/
structure Config.HasFileSizes (config : Config) : Prop where
  document : 0 ≤ config.maxDocumentSize ∧ config.maxDocumentSize + 1 < Tree.lengthLimit
  chunk : 0 < config.chunkSize ∧ config.chunkSize < Tree.lengthLimit

theorem readFirst_of_nonneg {length : Int} (h : 0 ≤ length ∧ length < Tree.lengthLimit)
    (content : List UInt8) : Tree.readFirst length content = .ok (content.take length.toNat) := by
  unfold Tree.readFirst
  rw [if_neg (by omega), if_neg (by omega), if_neg (by omega)]

theorem fault_readPieces {length : Int} (h : 0 < length ∧ length < Tree.lengthLimit)
    (content : List UInt8) : (Tree.readPieces length content).fault = none := by
  unfold Tree.readPieces
  rw [readFirst_of_nonneg ⟨Int.le_of_lt h.1, h.2⟩]
  dsimp only
  split
  · rfl
  · rw [if_neg (by omega)]

theorem refused_of_lt {α : Type} (format : Document.Format) {size : Nat} {limit : Int}
    (h : limit < size) (f : Unit → Except AccessFault α) :
    (Document.checkSize format size limit).mapError AccessFault.unusable >>= f =
      .error (.unusable ⟨format, .tooLarge size limit⟩) := by
  rw [Document.checkSize, if_pos h]
  rfl

/-- A document of a size is refused, or read from the bytes that are there if the size is allowed. -/
theorem refused_or_loaded (readers : Document.Readers) (format : Document.Format) {size : Nat}
    {limit : Int} {read content : List UInt8} (h : size ≤ limit → read = content) :
    (∃ u, ((Document.checkSize format size limit).mapError AccessFault.unusable >>= fun _ =>
      (Document.load readers format read).mapError .ofLoad) = .error (.unusable u)) ∨
    ((Document.checkSize format size limit).mapError AccessFault.unusable >>= fun _ =>
      (Document.load readers format read).mapError .ofLoad) =
        (Document.load readers format content).mapError .ofLoad := by
  by_cases hsize : limit < size
  · exact .inl ⟨_, refused_of_lt format hsize _⟩
  · rw [Document.checkSize, if_neg hsize, h (Int.not_lt.1 hsize)]
    exact .inr rfl

section files

variable {tree : Tree} {root path : String} {content : List UInt8}

/-- The documents behind a path, once its bytes are known. -/
theorem documentsAt_of_contentAt (hcontent : tree.contentAt path = .ok content)
    (readers : Document.Readers) (format : Document.Format) (limit : Int) :
    tree.documentsAt readers path format limit =
      Tree.readFirst (limit + 1) content >>= fun bytes =>
        (Document.checkSize format bytes.length limit).mapError AccessFault.unusable >>= fun _ =>
          (Document.load readers format bytes).mapError .ofLoad := by
  rw [Tree.documentsAt, hcontent]
  rfl

theorem content_tree (hcontent : tree.contentAt (joinPaths root path) = .ok content)
    (readers : Document.Readers) (zone : Calendar.Zone) (length : Int) :
    (tree.entity readers zone root path).content length = Tree.readPieces length content := by
  unfold Tree.entity
  rw [hcontent]

/-- What can be read in a directory tree has its bytes, if its timestamps are in the calendar: one byte
more than allowed is read, which tells whether all of them were. -/
theorem hasBytes_tree {config : Config} (h : Config.HasFileSizes config) {zone : Calendar.Zone}
    (hcontent : tree.contentAt (joinPaths root path) = .ok content)
    (hrange : ∀ fault, (tree.entity readers zone root path).metadata = .error fault →
      ∃ u, fault = .unavailable u) :
    Entity.HasBytes readers config content (tree.entity readers zone root path) where
  metadata := hrange
  documents format := by
    have hlimit := h.document
    refine .inr ?_
    show (∃ u, tree.documentsAt readers (joinPaths root path) format config.maxDocumentSize = _) ∨
      tree.documentsAt readers (joinPaths root path) format config.maxDocumentSize = _
    rw [documentsAt_of_contentAt hcontent, readFirst_of_nonneg ⟨by omega, hlimit.2⟩]
    refine refused_or_loaded readers format fun hsize => List.take_of_length_le ?_
    rw [List.length_take] at hsize
    omega
  content fault hfault := by
    rw [content_tree hcontent, fault_readPieces h.chunk] at hfault
    cases hfault

/-- A query of a file comes to its truth value unless something in the bytes of the file breaks it
off. -/
theorem evaluate_tree (he : ∀ p ∈ e.predicates, p.WellTyped)
    (h : Config.HasFileSizes setting.config)
    (hcontent : tree.contentAt (joinPaths root path) = .ok content)
    (hrange : ∀ fault, (tree.entity readers setting.zone root path).metadata = .error fault →
      ∃ u, fault = .unavailable u)
    (hdated : ∀ p ∈ e.predicates, p.category = .metadata →
      Dated setting.zone (tree.entity readers setting.zone root path) p) :
    let file := tree.entity readers setting.zone root path
    (∃ r frame, e.evaluate setting file = (.ok r, frame) ∧
      (r.verdict = .accepted ↔ e.holds (·.valueAt setting file) = true)) ∨
    ∃ fault frame, e.evaluate setting file = (.error fault, frame) ∧
      BreaksOff readers setting path content e fault :=
  (hasBytes_tree h hcontent hrange).verdict_or_breaksOff he hdated

end files

/-! ## 5. Blobs -/

section blobs

variable {repository : Git.Repository} {entry : Git.Entry} {content : List UInt8}

theorem documents_entry (hbytes : entry.bytes repository = .ok content)
    (readers : Document.Readers) (format : Document.Format) (limit : Int) :
    (∃ u, entry.documents repository readers format limit = .error (.unusable u)) ∨
    entry.documents repository readers format limit =
      (Document.load readers format content).mapError .ofLoad := by
  have hread := @refused_or_loaded readers format content.length limit content content fun _ => rfl
  unfold Git.Entry.documents
  rw [hbytes]
  cases entry.isBlob with
  | false => exact hread
  | true =>
    cases entry.checkKnownSize format limit with
    | error u => exact .inl ⟨u, rfl⟩
    | ok _ => exact hread

theorem content_entry (hbytes : entry.bytes repository = .ok content)
    (readers : Document.Readers) (length : Int) :
    (entry.entity repository readers).content length = Git.Entry.readPieces length content := by
  unfold Git.Entry.entity
  rw [hbytes]

/-- A blob of a revision has its bytes. -/
theorem hasBytes_entry {config : Config} (h : config.chunkSize ≠ 0)
    (hbytes : entry.bytes repository = .ok content) :
    Entity.HasBytes readers config content (entry.entity repository readers) where
  metadata := nofun
  documents format := .inr (documents_entry hbytes readers format config.maxDocumentSize)
  content fault hfault := by
    rw [content_entry hbytes, Git.Entry.readPieces, if_neg h] at hfault
    split at hfault <;> cases hfault

/-- A query of a blob comes to its truth value unless something in the bytes of the blob breaks it off;
times are missing. -/
theorem evaluate_entry (he : ∀ p ∈ e.predicates, p.WellTyped) (h : setting.config.chunkSize ≠ 0)
    (hbytes : entry.bytes repository = .ok content)
    (hdated : ∀ p ∈ e.predicates, p.category = .metadata →
      Dated setting.zone (entry.entity repository readers) p) :
    let blob := entry.entity repository readers
    (∃ r frame, e.evaluate setting blob = (.ok r, frame) ∧
      (r.verdict = .accepted ↔ e.holds (·.valueAt setting blob) = true)) ∨
    ∃ fault frame, e.evaluate setting blob = (.error fault, frame) ∧
      BreaksOff readers setting entry.queriedPath content e fault :=
  (hasBytes_entry h hbytes).verdict_or_breaksOff he hdated

end blobs

end FileQuery.Query
