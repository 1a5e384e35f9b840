import FileQuery.Proofs.Evaluate.Bytes
import FileQuery.Proofs.Tree.Locate
import Mathlib

/-!
# A file and a blob with the same bytes

A directory tree and a revision tell the same of the same bytes: their documents are refused or read
alike, although a tree reads only one byte more than allowed, and their content comes in the same
chunks.  So an evaluation cannot tell a file from a blob, except by moments, which revisions do not
have.
-/

namespace FileQuery

open Query

/-! ## 1. Reading from files -/

/-- Files can be read `length` bytes at a time: that many are read, or all that are left. -/
def Tree.CanRead (length : Int) : Prop :=
  ∀ content, Tree.readFirst length content = .ok (content.take length.toNat)

/-- Bytes that are all read, and are documents if there are not more of them than allowed. -/
def documentsIn (readers : Document.Readers) (content : List UInt8) (format : Document.Format)
    (limit : Int) : Except AccessFault (List Document.Root) := do
  (Document.checkSize format content.length limit).mapError .unusable
  (Document.load readers format content).mapError .ofLoad

/-- A file that can be read lies at a path and holds some bytes. -/
def Tree.HasFile (tree : Tree) (path : String) (content : List UInt8) : Prop :=
  ∃ found, tree.locate false path = .ok found ∧ found.item.node = .file content ∧
    found.item.isReadable = true

/-- An entry of a revision is a blob and no link; its path, its bytes and their number are known. -/
structure Git.Entry.IsFile (repository : Git.Repository) (entry : Git.Entry) (path : String)
    (content : List UInt8) : Prop where
  blob : entry.isBlob = true
  mode : entry.mode ≠ Git.linkMode
  path : entry.queriedPath = path
  size : entry.size = some content.length
  bytes : ∃ messages, repository.run (.readBlob entry.id) = .finished 0 content messages

theorem Tree.canRead_or_huge {length : Int} (h : 0 ≤ length) :
    Tree.CanRead length ∨ ¬ Tree.CanRead length ∧
      ∀ content, Tree.readFirst length content = .error .hugeLength := by
  by_cases hhuge : Tree.lengthLimit ≤ length.natAbs
  · have herror : ∀ content, Tree.readFirst length content = .error .hugeLength := by
      intro content
      rw [Tree.readFirst, if_pos hhuge]
    refine .inr ⟨fun hread => ?_, herror⟩
    have hempty := hread []
    rw [herror] at hempty
    cases hempty
  · exact .inl (readFirst_of_nonneg ⟨h, by omega⟩)

theorem Tree.HasFile.contentAt {tree : Tree} {path : String} {content : List UInt8}
    (h : tree.HasFile path content) : tree.contentAt path = .ok content := by
  obtain ⟨found, hfound, hnode, hreadable⟩ := h
  have hlocate : tree.locate true path = .ok found := by
    refine Tree.locate_of_not_link hfound fun target htarget => ?_
    rw [hnode] at htarget
    cases htarget
  simp [Tree.contentAt, hlocate, hreadable, hnode, bind, Except.bind, pure, Except.pure]

/-- Reading one byte more than allowed tells no less than reading all bytes, where so many bytes can
be read. -/
theorem documentsAt_cases {tree : Tree} {path : String} {content : List UInt8} {limit : Int}
    (hcontent : tree.contentAt path = .ok content) (hlimit : 0 ≤ limit)
    (readers : Document.Readers) (format : Document.Format) :
    tree.documentsAt readers path format limit = documentsIn readers content format limit ∨
    (∃ u v, tree.documentsAt readers path format limit = .error (.unusable u) ∧
      documentsIn readers content format limit = .error (.unusable v)) ∨
    ¬ Tree.CanRead (limit + 1) ∧ tree.documentsAt readers path format limit = .error .hugeLength := by
  rw [documentsAt_of_contentAt hcontent]
  rcases Tree.canRead_or_huge (show 0 ≤ limit + 1 by omega) with hread | ⟨hread, herror⟩
  · rw [hread content]
    by_cases hsize : content.length ≤ limit
    · rw [List.take_of_length_le (by omega)]
      exact .inl rfl
    · -- the byte too many is among those that are read
      have hfirst : limit < (content.take (limit + 1).toNat).length := by
        rw [List.length_take]
        omega
      exact .inr (.inl ⟨_, _, refused_of_lt format hfirst _,
        refused_of_lt format (Int.not_le.1 hsize) _⟩)
  · rw [herror content]
    exact .inr (.inr ⟨hread, rfl⟩)

theorem readPieces_cases {length : Int} (h : 1 ≤ length) (content : List UInt8) :
    Tree.readPieces length content = Git.Entry.readPieces length content ∨
    ¬ Tree.CanRead length ∧ Tree.readPieces length content = ⟨[], some .hugeLength⟩ := by
  rcases Tree.canRead_or_huge (show 0 ≤ length by omega) with hread | ⟨hread, herror⟩
  · refine .inl ?_
    rw [Tree.readPieces, Git.Entry.readPieces, hread content, if_neg (by omega), if_neg (by omega)]
    dsimp only
    cases content with
    | nil => simp [Content.cut, Content.cutFrom]
    | cons b rest =>
      have hfirst : ((b :: rest).take length.toNat).isEmpty = false := by
        rw [List.isEmpty_eq_false_iff]
        simp
        omega
      rw [hfirst, if_neg Bool.false_ne_true, if_neg (by omega)]
  · refine .inr ⟨hread, ?_⟩
    rw [Tree.readPieces, herror content]

namespace Git.Entry.IsFile

variable {repository : Git.Repository} {entry : Git.Entry} {path : String} {content : List UInt8}

theorem bytes_eq (h : entry.IsFile repository path content) :
    entry.bytes repository = .ok content := by
  obtain ⟨messages, hrun⟩ := h.bytes
  rw [Git.Entry.bytes, if_pos h.blob, Git.Repository.blob, hrun]
  rfl

/-- The size that is known beforehand refuses what the bytes themselves would. -/
theorem documents_eq (h : entry.IsFile repository path content) (readers : Document.Readers) :
    entry.documents repository readers = documentsIn readers content := by
  funext format limit
  have hknown : entry.checkKnownSize format limit =
      Document.checkSize format content.length limit := by
    rw [Git.Entry.checkKnownSize, h.size]
  unfold Git.Entry.documents documentsIn
  rw [h.bytes_eq, if_pos h.blob, hknown]
  by_cases hsize : limit < content.length
  · rw [refused_of_lt format hsize, refused_of_lt format hsize]
  · have hallowed : Document.checkSize format content.length limit = .ok () := by
      rw [Document.checkSize, if_neg hsize]
    rw [hallowed]
    show (Document.checkSize format content.length limit).mapError AccessFault.unusable >>= _ = _
    rw [hallowed]

end Git.Entry.IsFile

namespace Query

variable {F : EvaluationFault → Prop} {setting : Setting} {entity other : Entity} {e : Expr}
  {p : Predicate} {α β : Type}

/-! ## 2. Entities that agree -/

/-- Two ways to find something out that come to the same, unless the first breaks off with a fault of a
kind. -/
def AgreeUnless (F : EvaluationFault → Prop) (x y : Except EvaluationFault α) : Prop :=
  x = y ∨ ∃ fault, F fault ∧ x = .error fault

namespace AgreeUnless

theorem refl (x : Except EvaluationFault α) : AgreeUnless F x x := .inl rfl

theorem bind {x y : Except EvaluationFault α} {f g : α → Except EvaluationFault β}
    (hx : AgreeUnless F x y) (hf : ∀ a, x = .ok a → AgreeUnless F (f a) (g a)) :
    AgreeUnless F (x >>= f) (y >>= g) := by
  rcases hx with rfl | ⟨fault, hfault, rfl⟩
  · cases x with
    | error fault => exact refl _
    | ok a => exact hf a rfl
  · exact .inr ⟨fault, hfault, rfl⟩

theorem reduce {ans ans' : Predicate → Except EvaluationFault (Option Bool)}
    (h : ∀ p ∈ e.predicates, AgreeUnless F (ans p) (ans' p)) :
    AgreeUnless F (e.reduce ans) (e.reduce ans') :=
  Expr.reduce_related (m := Except EvaluationFault) (n := Except EvaluationFault)
    (R := fun _ x y => AgreeUnless F x y) ans ans' (fun _ => refl _)
    (fun hx hf => hx.bind fun a _ => hf a) e h

end AgreeUnless

/-- An entity answers as another one does, as far as a query can tell, unless it breaks off with a fault
of a kind. -/
structure Entity.AgreesUnless (F : EvaluationFault → Prop) (setting : Setting) (e : Expr)
    (entity other : Entity) : Prop where
  path : entity.path = other.path
  metadata : ∀ p ∈ e.predicates,
    AgreeUnless F (metadataAnswer setting entity p) (metadataAnswer setting other p)
  documents : ∀ format,
    AgreeUnless F (documentsOf setting entity format) (documentsOf setting other format)
  content : entity.content setting.config.chunkSize = other.content setting.config.chunkSize ∨
    F (.access .hugeLength) ∧ entity.content setting.config.chunkSize = ⟨[], some .hugeLength⟩

namespace Entity.AgreesUnless

theorem mono {e' : Expr} (h : Entity.AgreesUnless F setting e entity other)
    (hsubset : e'.predicates ⊆ e.predicates) : Entity.AgreesUnless F setting e' entity other :=
  { h with metadata := fun p hp => h.metadata p (hsubset hp) }

theorem documentAnswer (h : Entity.AgreesUnless F setting e entity other) (p : Predicate) :
    AgreeUnless F (documentAnswer setting entity p) (documentAnswer setting other p) := by
  unfold Query.documentAnswer
  cases p.operand with
  | document m => exact (h.documents m.format).bind fun _ _ => .refl _
  | _ => exact .refl _

theorem contentReduced (h : Entity.AgreesUnless F setting e entity other) :
    AgreeUnless F (contentReduced setting entity e) (contentReduced setting other e) := by
  unfold Query.contentReduced
  rcases h.content with hsame | ⟨hF, hhuge⟩
  · rw [hsame]
    exact .refl _
  · rw [hhuge]
    exact .inr ⟨_, hF, rfl⟩

theorem categoryReduced (h : Entity.AgreesUnless F setting e entity other) (c : Category) :
    AgreeUnless F (categoryReduced setting entity c e) (categoryReduced setting other c e) := by
  cases c with
  | name =>
    refine .reduce fun p _ => .inl ?_
    rw [nameAnswer, h.path]
    rfl
  | metadata => exact .reduce fun p hp => h.metadata p hp
  | structured => exact .reduce fun p _ => h.documentAnswer p
  | content => exact h.contentReduced

theorem decideFrom (cs : List Category) (h : Entity.AgreesUnless F setting e entity other) :
    AgreeUnless F (decideFrom setting entity cs e) (decideFrom setting other cs e) := by
  induction cs generalizing e with
  | nil => exact .refl _
  | cons c rest ih =>
    refine (h.categoryReduced c).bind fun e' he => ?_
    cases e'.known? with
    | some b => exact .refl _
    | none => exact ih (h.mono (predicates_of_categoryReduced he))

/-- What agrees in its answers agrees in the evaluation. -/
theorem evaluate (h : Entity.AgreesUnless F setting e entity other) :
    AgreeUnless F (e.evaluate setting entity).1 (e.evaluate setting other).1 := by
  rw [evaluate_eq_decideFrom, evaluate_eq_decideFrom]
  exact h.decideFrom categories

end Entity.AgreesUnless

/-- Predicates that do not ask for moments ask for the type and the size. -/
theorem metadataVerdict_congr {m m' : Metadata} (htype : m.type = m'.type) (hsize : m.size = m'.size)
    (hp : p.selector.family ≠ .temporal) :
    metadataVerdict setting p m = metadataVerdict setting p m' := by
  unfold metadataVerdict
  cases hselector : p.selector with
  | type => rw [htype]
  | size => rw [hsize]
  | modified | created | accessed =>
    rw [hselector] at hp
    exact absurd rfl hp
  | _ => rfl

/-- Documents that are unusable on both sides are as good as none. -/
theorem documentsOf_agree (hpath : entity.path = other.path) {format : Document.Format}
    (h : let limit := setting.config.maxDocumentSize
      entity.documents format limit = other.documents format limit ∨
      (∃ u v, entity.documents format limit = .error (.unusable u) ∧
        other.documents format limit = .error (.unusable v)) ∨
      F (.access .hugeLength) ∧ entity.documents format limit = .error .hugeLength) :
    AgreeUnless F (documentsOf setting entity format) (documentsOf setting other format) := by
  unfold documentsOf
  rw [hpath]
  cases format.admits other.path with
  | false => exact .refl _
  | true =>
    rcases h with hsame | ⟨u, v, hu, hv⟩ | ⟨hF, hhuge⟩
    · rw [hsame]
      exact .refl _
    · rw [hu, hv]
      exact .refl _
    · rw [hhuge]
      exact .inr ⟨_, hF, rfl⟩

/-- Entities that differ in their metadata, of which one breaks off. -/
theorem agrees_of_metadata_error {fault : AccessFault} (hpath : entity.path = other.path)
    (hdocuments : entity.documents = other.documents) (hcontent : entity.content = other.content)
    (h : entity.metadata = .error fault) (hfault : ∀ u, fault ≠ .unavailable u) :
    Entity.AgreesUnless (· = .access fault) setting e entity other where
  path := hpath
  metadata p _ := by
    have hbroken : metadataOf entity = .error (.access fault) := by
      rw [metadataOf, h]
      cases fault with
      | unavailable u => exact absurd rfl (hfault u)
      | _ => rfl
    unfold metadataAnswer
    split
    · exact .refl _
    · rw [hbroken]
      exact .inr ⟨_, rfl, rfl⟩
  documents format := by
    rw [documentsOf, documentsOf, hpath, hdocuments]
    exact .refl _
  content := .inl (by rw [hcontent])

/-! ## 3. Every evaluation -/

section bytes

variable {tree : Tree} {repository : Git.Repository} {entry : Git.Entry} {root path : String}
  {content : List UInt8}

/-- The metadata of a file tell its type and its size, if they tell anything. -/
theorem eq_of_metadata_tree {readers : Document.Readers} {zone : Calendar.Zone} {m : Metadata}
    (hfile : tree.HasFile (joinPaths root path) content)
    (h : (tree.entity readers zone root path).metadata = .ok m) :
    m.type = .file ∧ m.size = some content.length := by
  obtain ⟨found, hfound, hnode, -⟩ := hfile
  have hmetadata : Tree.metadataOf zone found.item = .ok m := by
    rw [← h, Tree.entity, hfound]
  obtain ⟨_, -, hmetadata⟩ := bind_eq_ok.1 hmetadata
  obtain ⟨_, -, hmetadata⟩ := bind_eq_ok.1 hmetadata
  obtain ⟨_, -, hmetadata⟩ := bind_eq_ok.1 hmetadata
  cases hmetadata
  rw [hnode]
  exact ⟨rfl, rfl⟩

/-- A file that is read as far as needed agrees with one that is read as a whole. -/
theorem agrees_readWhole (hfile : tree.HasFile (joinPaths root path) content)
    (hlimit : 0 ≤ setting.config.maxDocumentSize) (readers : Document.Readers)
    (zone : Calendar.Zone) (e : Expr) :
    Entity.AgreesUnless (fun _ => ¬ Tree.CanRead (setting.config.maxDocumentSize + 1)) setting e
      (tree.entity readers zone root path)
      { tree.entity readers zone root path with documents := documentsIn readers content } where
  path := rfl
  metadata _ _ := .refl _
  documents format := by
    refine documentsOf_agree (by rfl) ?_
    exact documentsAt_cases hfile.contentAt hlimit readers format
  content := .inl rfl

/-- A file agrees with a blob that has its metadata. -/
theorem agrees_blob (hfile : tree.HasFile (joinPaths root path) content)
    (hblob : entry.IsFile repository path content) (hchunk : 1 ≤ setting.config.chunkSize)
    (hlimit : 0 ≤ setting.config.maxDocumentSize) (readers : Document.Readers)
    (zone : Calendar.Zone) (e : Expr) :
    Entity.AgreesUnless (fun fault => fault = .access .hugeLength ∧
        ¬ (Tree.CanRead setting.config.chunkSize ∧
          Tree.CanRead (setting.config.maxDocumentSize + 1))) setting e
      (tree.entity readers zone root path)
      { entry.entity repository readers with
        metadata := (tree.entity readers zone root path).metadata } where
  path := hblob.path.symm
  metadata _ _ := .refl _
  documents format := by
    refine documentsOf_agree hblob.path.symm ?_
    have hdocuments : (entry.entity repository readers).documents = documentsIn readers content :=
      hblob.documents_eq readers
    rw [hdocuments]
    refine (documentsAt_cases hfile.contentAt hlimit readers format).imp_right fun h => ?_
    exact h.imp_right fun hrest => ⟨⟨rfl, fun hboth => hrest.1 hboth.2⟩, hrest.2⟩
  content := by
    show (tree.entity readers zone root path).content setting.config.chunkSize =
      (entry.entity repository readers).content setting.config.chunkSize ∨ _
    rw [content_tree hfile.contentAt, content_entry hblob.bytes_eq]
    exact (readPieces_cases hchunk content).imp_right fun hrest =>
      ⟨⟨rfl, fun hboth => hrest.1 hboth.1⟩, hrest.2⟩

/-- Metadata of a file are as good as those of a blob, if they are there and no moments are asked for. -/
theorem agrees_metadata (hfile : tree.HasFile (joinPaths root path) content)
    (hblob : entry.IsFile repository path content) (readers : Document.Readers)
    (zone : Calendar.Zone) (he : ∀ p ∈ e.predicates, p.selector.family ≠ .temporal) {m : Metadata}
    (hm : (tree.entity readers zone root path).metadata = .ok m) :
    Entity.AgreesUnless (fun _ => False) setting e
      { entry.entity repository readers with
        metadata := (tree.entity readers zone root path).metadata }
      (entry.entity repository readers) where
  path := rfl
  metadata p hp := by
    obtain ⟨htype, hsize⟩ := eq_of_metadata_tree hfile hm
    have hrevision : metadataOf (entry.entity repository readers) = .ok (some entry.metadata) := rfl
    have htype' : m.type = entry.metadata.type := by
      rw [htype, Git.Entry.metadata, if_pos hblob.blob, if_neg hblob.mode]
    have hsize' : m.size = entry.metadata.size := by
      rw [hsize, Git.Entry.metadata, if_pos hblob.blob, hblob.size]
    unfold metadataAnswer
    rw [hrevision, metadataOf, hm]
    refine .inl ?_
    show (if _ then _ else metadataVerdict setting p m) = if _ then _ else metadataVerdict setting p _
    rw [metadataVerdict_congr htype' hsize' (he p hp)]
  documents format := .refl _
  content := .inl rfl

/-- A query without moments comes to the same for a file and for a blob with the same path and bytes,
and reading the file only one byte beyond what is allowed makes no difference, if files can be read
with these numbers of bytes and the metadata of the file can be had: its timestamps may be out of the
calendar, and an evaluation that asks for metadata breaks off then.  With other numbers the evaluation
of the file comes to the same or breaks off. -/
theorem evaluate_file_eq_blob (hfile : tree.HasFile (joinPaths root path) content)
    (hblob : entry.IsFile repository path content) (hchunk : 1 ≤ setting.config.chunkSize)
    (hlimit : 0 ≤ setting.config.maxDocumentSize) (readers : Document.Readers)
    (zone : Calendar.Zone) (he : ∀ p ∈ e.predicates, p.selector.family ≠ .temporal) :
    let file := tree.entity readers zone root path
    let blob := entry.entity repository readers
    let onDisk := (e.evaluate setting file).1
    let inRevision := (e.evaluate setting blob).1
    let stamped := (e.evaluate setting { blob with metadata := file.metadata }).1
    let readWhole := (e.evaluate setting { file with documents := documentsIn readers content }).1
    (Tree.CanRead setting.config.chunkSize →
      Tree.CanRead (setting.config.maxDocumentSize + 1) → onDisk = stamped) ∧
    (Tree.CanRead (setting.config.maxDocumentSize + 1) → onDisk = readWhole) ∧
    (onDisk = stamped ∨ onDisk = .error (.access .hugeLength)) ∧
    (∀ m, file.metadata = .ok m → stamped = inRevision) ∧
    ∀ fault, file.metadata = .error (.range fault) →
      stamped = inRevision ∨ stamped = .error (.access (.range fault)) := by
  intro file blob onDisk inRevision stamped readWhole
  have hstamped := (agrees_blob hfile hblob hchunk hlimit readers zone e).evaluate
  have hwhole := (agrees_readWhole hfile hlimit readers zone e).evaluate
  refine ⟨fun hreadChunk hreadLimit => ?_, fun hread => ?_, ?_, fun m hm => ?_, fun fault h => ?_⟩
  · exact hstamped.resolve_right fun ⟨_, h, _⟩ => h.2 ⟨hreadChunk, hreadLimit⟩
  · exact hwhole.resolve_right fun ⟨_, h, _⟩ => h hread
  · refine hstamped.imp_right ?_
    rintro ⟨_, ⟨rfl, -⟩, h⟩
    exact h
  · exact (agrees_metadata hfile hblob readers zone he hm).evaluate.resolve_right
      fun ⟨_, h, _⟩ => h
  · have hbroken : Entity.AgreesUnless (· = .access (.range fault)) setting e
        { blob with metadata := file.metadata } blob :=
      agrees_of_metadata_error rfl rfl rfl h nofun
    refine hbroken.evaluate.imp_right ?_
    rintro ⟨_, rfl, h⟩
    exact h

/-- The name of the only file leads to it. -/
theorem locate_file (content : List UInt8) (stamp : Int) :
    let item : Item := { node := .file content, modified := stamp }
    (⟨[(["a.json"], item)]⟩ : Tree).locate false (joinPaths "" "a.json") =
      .ok ⟨["a.json"], item, 0⟩ := by
  have hnames : Tree.namesOf "a.json" = ["a.json"] := by
    rw [Tree.namesOf, Tree.splitOn_slash]
    cbv
  have hpath : joinPaths "" "a.json" = "a.json" := by cbv
  intro item
  rw [hpath, Tree.locate, hnames]
  cbv

/-- Three bytes where two are allowed: neither side takes them for a document. -/
theorem evaluate_file_eq_blob_too_large :
    let readers : Document.Readers := { yaml := Document.Yaml.library {} }
    let content : List UInt8 := [91, 49, 93]
    let tree : Tree := ⟨[(["a.json"], { node := .file content })]⟩
    let repository : Git.Repository := ⟨"", fun _ => .finished 0 content []⟩
    let entry : Git.Entry := ⟨"100644", "blob", "1", some 3, "a.json".toList.map .char⟩
    let setting : Setting := { config := { maxDocumentSize := 2 } }
    let e : Expr := .and [.not (.pred ⟨.document .json, none, .document ⟨.json, [.index 0], .exists⟩⟩),
      .pred ⟨.size, some .eq, .number 3⟩]
    let file := tree.entity readers (.fixed 0) "" "a.json"
    tree.HasFile (joinPaths "" "a.json") content ∧ entry.IsFile repository "a.json" content ∧
      1 ≤ setting.config.chunkSize ∧ 0 ≤ setting.config.maxDocumentSize ∧
      (∀ p ∈ e.predicates, p.selector.family ≠ .temporal) ∧
      Tree.CanRead setting.config.chunkSize ∧ Tree.CanRead (setting.config.maxDocumentSize + 1) ∧
      (∃ m, file.metadata = .ok m) ∧
      (e.evaluate setting file).1 = .ok ⟨.accepted, .structured⟩ ∧
      (e.evaluate setting (entry.entity repository readers)).1 = .ok ⟨.accepted, .structured⟩ := by
  intro readers content tree repository entry setting e file
  have hlocate : tree.locate false (joinPaths "" "a.json") =
      .ok ⟨["a.json"], { node := .file content }, 0⟩ := locate_file content _
  have hfile : tree.HasFile (joinPaths "" "a.json") content := ⟨_, hlocate, rfl, rfl⟩
  have hblob : entry.IsFile repository "a.json" content :=
    ⟨by decide, by decide, by decide +kernel, rfl, [], rfl⟩
  have hchunk : 1 ≤ setting.config.chunkSize := by decide
  have hlimit : 0 ≤ setting.config.maxDocumentSize := by decide
  have he : ∀ p ∈ e.predicates, p.selector.family ≠ .temporal := by decide
  have hreadChunk : Tree.CanRead setting.config.chunkSize := readFirst_of_nonneg (by decide)
  have hreadLimit : Tree.CanRead (setting.config.maxDocumentSize + 1) :=
    readFirst_of_nonneg (by decide)
  have hmetadata : ∃ m, file.metadata = .ok m := by
    have hitem : file.metadata = Tree.metadataOf (.fixed 0) { node := .file content } := by
      simp only [file, Tree.entity, hlocate]
    rw [hitem]
    exact ⟨⟨.file, some 3, some ⟨Calendar.epoch, 0⟩, some ⟨Calendar.epoch, 0⟩,
      some ⟨Calendar.epoch, 0⟩⟩, by decide +kernel⟩
  have hrevision : (e.evaluate setting (entry.entity repository readers)).1 =
      .ok ⟨.accepted, .structured⟩ := by decide +kernel
  refine ⟨hfile, hblob, hchunk, hlimit, he, hreadChunk, hreadLimit, hmetadata, ?_, hrevision⟩
  obtain ⟨m, hm⟩ := hmetadata
  obtain ⟨hdisk, -, -, hstamped, -⟩ :=
    evaluate_file_eq_blob hfile hblob hchunk hlimit readers (.fixed 0) he
  rw [hdisk hreadChunk hreadLimit, hstamped m hm, hrevision]

/-- A file that was changed in the year 11476 breaks off where it is asked for its size, and one that may
have more bytes than a number can count breaks off where it is read; blobs do not. -/
theorem evaluate_file_breaksOff :
    let readers : Document.Readers := { yaml := Document.Yaml.library {} }
    let clock : Clock := ⟨.fixed 0 0, .fixed 0⟩
    let content : List UInt8 := [91, 49, 93]
    let stamp : Int := Calendar.epoch + 300000000000 * Calendar.second
    let tree : Tree := ⟨[(["a.json"], { node := .file content, modified := stamp })]⟩
    let repository : Git.Repository := ⟨"", fun _ => .finished 0 content []⟩
    let entry : Git.Entry := ⟨"100644", "blob", "1", some 3, "a.json".toList.map .char⟩
    let setting : Setting := { config := { maxDocumentSize := 9223372036854775807 } }
    let sized : Expr := .pred ⟨.size, some .ge, .number 0⟩
    let indexed : Expr := .pred ⟨.document .json, none, .document ⟨.json, [.index 0], .exists⟩⟩
    let file := tree.entity readers (.fixed 0) "" "a.json"
    let blob := entry.entity repository readers
    tree.HasFile (joinPaths "" "a.json") content ∧ entry.IsFile repository "a.json" content ∧
      parse (.ofDepth 9) clock "size >= 0" = .ok sized ∧
      parse (.ofDepth 9) clock "json:.[0]" = .ok indexed ∧
      (sized.evaluate {} file).1 = .error (.access (.range (.year 11476))) ∧
      (sized.evaluate {} blob).1 = .ok ⟨.accepted, .metadata⟩ ∧
      (indexed.evaluate setting file).1 = .error (.access .hugeLength) ∧
      (indexed.evaluate setting blob).1 = .ok ⟨.accepted, .structured⟩ := by
  intro readers clock content stamp tree repository entry setting sized indexed file blob
  have hlocate : tree.locate false (joinPaths "" "a.json") =
      .ok ⟨["a.json"], { node := .file content, modified := stamp }, 0⟩ := locate_file content stamp
  have hfile : tree.HasFile (joinPaths "" "a.json") content := ⟨_, hlocate, rfl, rfl⟩
  have hblob : entry.IsFile repository "a.json" content :=
    ⟨by decide, by decide, by decide +kernel, rfl, [], rfl⟩
  have hdocuments : tree.documentsAt readers (joinPaths "" "a.json") = fun format limit =>
      Tree.readFirst (limit + 1) content >>= fun bytes =>
        (Document.checkSize format bytes.length limit).mapError AccessFault.unusable >>= fun _ =>
          (Document.load readers format bytes).mapError .ofLoad :=
    funext fun format => funext fun limit =>
      documentsAt_of_contentAt hfile.contentAt readers format limit
  have hentity : file = { file with
      metadata := Tree.metadataOf (.fixed 0) { node := .file content, modified := stamp }
      documents := fun format limit => Tree.readFirst (limit + 1) content >>= fun bytes =>
        (Document.checkSize format bytes.length limit).mapError AccessFault.unusable >>= fun _ =>
          (Document.load readers format bytes).mapError .ofLoad } := by
    rw [← hdocuments]
    simp only [file, Tree.entity, hlocate]
  refine ⟨hfile, hblob, by with_unfolding_all rfl, by with_unfolding_all rfl, ?_,
    by decide +kernel, ?_, by decide +kernel⟩
  · rw [hentity]
    decide +kernel
  · rw [hentity]
    decide +kernel

end bytes

end Query

end FileQuery
