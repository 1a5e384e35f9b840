import FileQuery.Git.Listing
import FileQuery.Proofs.Query.Literal.Size
import FileQuery.Proofs.Text.Pieces

/-!
# Lists are read as the entries that they were written from

A zero character ends every record, the path is what follows the first tab, and blanks separate the
fields before it.  No field holds a blank, and no path holds a zero character; so a list is read as just
the entries that it was written from, whatever else their paths hold.
-/

namespace FileQuery.Git

open Text (Piece)

/-! ## 1. Lists as they are written -/

/-- An entry as it is written with elements of `α`: its fields, the digits of its size if it has one,
the number of spaces before these, and its path. -/
structure Row (α : Type) where
  mode : List α
  type : List α
  id : List α
  padding : Nat
  digits? : Option (List Char)
  path : List α
deriving DecidableEq

namespace Row

def map {α β : Type} (f : List α → List β) (r : Row α) : Row β :=
  ⟨f r.mode, f r.type, f r.id, r.padding, r.digits?, f r.path⟩

def sizeText {α : Type} (r : Row α) : List Char := r.digits?.getD ['-']

def front {α : Type} (sign : Char → α) (r : Row α) : List α :=
  r.mode ++ sign ' ' :: (r.type ++ sign ' ' :: (r.id ++ sign ' ' ::
    (List.replicate r.padding ' ' ++ r.sizeText).map sign))

def text {α : Type} (sign : Char → α) (r : Row α) : List α := r.front sign ++ sign '\t' :: r.path

def listing {α : Type} (sign : Char → α) (rows : List (Row α)) : List α :=
  rows.flatMap fun r => r.text sign ++ [sign '\x00']

def entry (r : Row Piece) : Entry where
  mode := Text.countable r.mode
  type := Text.countable r.type
  id := Text.countable r.id
  size := r.digits?.map (Nat.ofDigitChars 10 · 0)
  path := r.path

/-- A row that can be told from others: no field is empty or holds a blank or a zero character, a size
has some digits and not too many, and the path holds no zero character. -/
structure IsProper (r : Row Piece) : Prop where
  fields : ∀ field ∈ [r.mode, r.type, r.id], field ≠ [] ∧
    ∀ p ∈ field, isBlankPiece p = false ∧ p ≠ .char '\x00'
  size : ∀ digits, r.digits? = some digits → digits ≠ [] ∧ digits.length ≤ Number.digitLimit ∧
    ∀ c ∈ digits, c.isDigit = true
  path : .char '\x00' ∉ r.path

end Row

/-! ## 2. Splitting -/

theorem splitWhere_eq {α : Type} (test : α → Bool) (done : List (List α)) (part s : List α) :
    splitWhere test done part s = done.reverse ++ List.splitOnPPrepend test s part := by
  induction s generalizing done part with
  | nil => simp [splitWhere]
  | cons x s ih =>
    rw [splitWhere, List.splitOnPPrepend_cons_eq_if]
    split
    · rw [ih, List.reverse_cons, List.append_assoc]
      rfl
    · exact ih done (x :: part)

/-- Texts that a sign ends, and that do not hold it, are told apart at that sign. -/
theorem splitOnP_flatMap {α : Type} {test : α → Bool} {sign : α} (hsign : test sign = true)
    {texts : List (List α)} (h : ∀ s ∈ texts, ∀ x ∈ s, test x = false) :
    (texts.flatMap (· ++ [sign])).splitOnP test = texts ++ [[]] := by
  induction texts with
  | nil => rfl
  | cons s texts ih =>
    rw [List.forall_mem_cons] at h
    rw [List.flatMap_cons, List.append_assoc, List.singleton_append,
      List.splitOnP_append_cons_of_forall_mem h.1 sign hsign, ih h.2, List.cons_append]

theorem filter_splitOnP_replicate {α : Type} {test : α → Bool} {sign : α} (hsign : test sign = true)
    (n : Nat) (s : List α) :
    ((List.replicate n sign ++ s).splitOnP test).filter (!·.isEmpty) =
      (s.splitOnP test).filter (!·.isEmpty) := by
  induction n with
  | zero => rfl
  | succ n ih =>
    have hnext : (sign :: (List.replicate n sign ++ s)).splitOnP test =
        [] :: (List.replicate n sign ++ s).splitOnP test := by
      rw [List.splitOnP_cons_eq_if_modifyHead, if_pos hsign]
    rw [List.replicate_succ, List.cons_append, hnext]
    exact ih

/-! ## 3. Records -/

theorem countable_chars (s : List Char) : Text.countable (s.map .char) = String.ofList s := by
  rw [Text.countable, List.flatMap_map]
  simp

section record

variable {r : Row Piece}

/-- A size is digits, or a hyphen. -/
theorem Row.IsProper.sizeText_cases (h : r.IsProper) :
    r.sizeText ≠ [] ∧ ∀ c ∈ r.sizeText, c.isDigit = true ∨ c = '-' := by
  unfold Row.sizeText
  cases hdigits : r.digits? with
  | none => exact ⟨List.cons_ne_nil _ _, fun c hc => .inr (List.mem_singleton.1 hc)⟩
  | some digits =>
    obtain ⟨hne, -, hall⟩ := h.size digits hdigits
    exact ⟨hne, fun c hc => .inl (hall c hc)⟩

theorem Row.IsProper.isBlank_sizeText (h : r.IsProper) :
    ∀ c ∈ r.sizeText, Text.isBlank c = false := by
  intro c hc
  rcases h.sizeText_cases.2 c hc with hdigit | rfl
  · exact Text.isBlank_of_isDigit hdigit
  · decide

/-- Before the tab there are neither tabs nor zero characters: the fields hold no blanks, and only
spaces are between them. -/
theorem Row.IsProper.mem_front (h : r.IsProper) :
    ∀ p ∈ r.front .char, p ≠ .char '\t' ∧ p ≠ .char '\x00' := by
  have hfield : ∀ field ∈ [r.mode, r.type, r.id], ∀ p ∈ field,
      p ≠ .char '\t' ∧ p ≠ .char '\x00' := by
    intro field hfield p hp
    obtain ⟨hblank, hzero⟩ := (h.fields field hfield).2 p hp
    refine ⟨?_, hzero⟩
    rintro rfl
    cases hblank
  have hspace : Piece.char ' ' ≠ .char '\t' ∧ Piece.char ' ' ≠ .char '\x00' := by decide
  have hsize : ∀ c ∈ List.replicate r.padding ' ' ++ r.sizeText, c ≠ '\t' ∧ c ≠ '\x00' := by
    intro c hc
    rcases List.mem_append.1 hc with hc | hc
    · rw [List.eq_of_mem_replicate hc]
      decide
    · rcases h.sizeText_cases.2 c hc with hdigit | rfl
      · exact ⟨Text.ne_of_isDigit hdigit rfl, Text.ne_of_isDigit hdigit rfl⟩
      · decide
  intro p hp
  simp only [Row.front, List.mem_append, List.mem_cons, List.mem_map] at hp
  -- the mode, the type, the number and the padded size, with a space between each two
  rcases hp with hp | rfl | hp | rfl | hp | rfl | ⟨c, hc, rfl⟩
  · exact hfield r.mode (by simp) p hp
  · exact hspace
  · exact hfield r.type (by simp) p hp
  · exact hspace
  · exact hfield r.id (by simp) p hp
  · exact hspace
  · obtain ⟨htab, hzero⟩ := hsize c (List.mem_append.2 hc)
    exact ⟨fun heq => htab (Piece.char.inj heq), fun heq => hzero (Piece.char.inj heq)⟩

theorem Row.IsProper.zero_notMem_text (h : r.IsProper) :
    ∀ p ∈ r.text .char, isPiece '\x00' p = false := by
  intro p hp
  rw [Row.text, List.mem_append, List.mem_cons] at hp
  rw [isPiece, decide_eq_false_iff_not]
  rcases hp with hp | rfl | hp
  · exact (h.mem_front p hp).2
  · decide
  · rintro rfl
    exact h.path hp

/-- What stands before the first tab and behind it. -/
theorem Row.IsProper.split_tab (h : r.IsProper) :
    (r.text .char).takeWhile (fun p => !isPiece '\t' p) = r.front .char ∧
      pathOf (r.text .char) = r.path := by
  have hfront : ∀ p ∈ r.front .char, (!isPiece '\t' p) = true := by
    intro p hp
    simpa [isPiece] using (h.mem_front p hp).1
  constructor
  · rw [Row.text, List.takeWhile_append_of_pos hfront, List.takeWhile_cons_of_neg (by decide),
      List.append_nil]
  · rw [pathOf, Row.text, List.dropWhile_append_of_pos hfront,
      List.dropWhile_cons_of_neg (by decide), List.drop_one, List.tail_cons]

/-- The fields are told apart at the blanks between them. -/
theorem Row.IsProper.fieldsOf_text (h : r.IsProper) :
    fieldsOf (r.text .char) = [Text.countable r.mode, Text.countable r.type, Text.countable r.id,
      String.ofList r.sizeText] := by
  have hfield : ∀ field ∈ [r.mode, r.type, r.id],
      (∀ p ∈ field, isBlankPiece p = false) ∧ (!field.isEmpty) = true := by
    intro field hfield
    obtain ⟨hne, hall⟩ := h.fields field hfield
    exact ⟨fun p hp => (hall p hp).1, by simpa using hne⟩
  have hsize : ∀ p ∈ r.sizeText.map Piece.char, isBlankPiece p = false := by
    intro p hp
    obtain ⟨c, hc, rfl⟩ := List.mem_map.1 hp
    exact h.isBlank_sizeText c hc
  have hsizeKept : (!(r.sizeText.map Piece.char).isEmpty) = true := by
    simpa using h.sizeText_cases.1
  have hspace : isBlankPiece (.char ' ') = true := by decide
  obtain ⟨hmode, hmodeKept⟩ := hfield r.mode (by simp)
  obtain ⟨htype, htypeKept⟩ := hfield r.type (by simp)
  obtain ⟨hid, hidKept⟩ := hfield r.id (by simp)
  -- the padding leaves empty fields, which are dropped
  have hlast : ((List.replicate r.padding (Piece.char ' ') ++
      r.sizeText.map Piece.char).splitOnP isBlankPiece).filter (!·.isEmpty) =
        [r.sizeText.map Piece.char] := by
    rw [filter_splitOnP_replicate hspace, List.splitOnP_eq_singleton hsize,
      List.filter_singleton, hsizeKept, cond_true]
  simp only [fieldsOf, h.split_tab.1, splitWhere_eq, List.reverse_nil, List.nil_append,
    List.splitOnPPrepend_nil_right]
  rw [Row.front, List.splitOnP_append_cons_of_forall_mem hmode _ hspace,
    List.splitOnP_append_cons_of_forall_mem htype _ hspace,
    List.splitOnP_append_cons_of_forall_mem hid _ hspace, List.map_append, List.map_replicate,
    List.filter_cons_of_pos (by exact hmodeKept), List.filter_cons_of_pos (by exact htypeKept),
    List.filter_cons_of_pos (by exact hidKept), hlast]
  simp only [List.map_cons, List.map_nil, countable_chars]

/-- Digits are read as the number that they spell, and a hyphen as none. -/
theorem Row.IsProper.readEntrySize_sizeText (h : r.IsProper) :
    readEntrySize (String.ofList r.sizeText) = .ok (r.digits?.map (Nat.ofDigitChars 10 · 0)) := by
  unfold Row.sizeText
  cases hdigits : r.digits? with
  | none => decide
  | some digits =>
    obtain ⟨hne, hlength, hall⟩ := h.size digits hdigits
    -- digits are refused only where there are too many of them
    have hread : Number.readDigits (String.ofList digits) digits =
        .ok (Nat.ofDigitChars 10 digits 0) := by
      cases hread : Number.readDigits (String.ofList digits) digits with
      | error fault =>
        have hlong := (Number.tooLong_of_readDigits hne hall hread).1
        exact absurd hlength (Nat.not_le_of_lt hlong)
      | ok n =>
        have hvalue := (Number.digitsValue?_of_readDigits hread).2
        rw [Number.digitsValue?_of_isDigit hall] at hvalue
        rw [Option.some.inj hvalue]
    have hisDigit : digits.all Text.isDigit = true :=
      List.all_eq_true.2 fun c hc => Text.isDigit_of_isDigit (hall c hc)
    show readEntrySize (String.ofList digits) = _
    rw [readEntrySize, String.toList_ofList, if_pos hisDigit, hread]
    rfl

/-- A record is read as the entry that it was written from. -/
theorem Row.IsProper.ofRecord_text (h : r.IsProper) : Entry.ofRecord (r.text .char) = .ok r.entry := by
  rw [Entry.ofRecord, h.fieldsOf_text]
  dsimp only
  rw [h.readEntrySize_sizeText, h.split_tab.2]
  rfl

end record

/-! ## 4. Lists -/

theorem records_listing {rows : List (Row Piece)} (h : ∀ r ∈ rows, r.IsProper) :
    records (Row.listing .char rows) = rows.map (Row.text .char) := by
  have hzero : isPiece '\x00' (.char '\x00') = true := by decide
  have htexts : ∀ s ∈ rows.map (Row.text .char), ∀ p ∈ s, isPiece '\x00' p = false := by
    intro s hs
    obtain ⟨r, hr, rfl⟩ := List.mem_map.1 hs
    exact (h r hr).zero_notMem_text
  have hne : ∀ s ∈ rows.map (Row.text .char), (!s.isEmpty) = true := by
    intro s hs
    obtain ⟨r, hr, rfl⟩ := List.mem_map.1 hs
    simp [Row.text]
  have hlisting : Row.listing .char rows =
      (rows.map (Row.text .char)).flatMap (· ++ [.char '\x00']) := by
    rw [Row.listing, List.flatMap_map]
  rw [records, splitWhere_eq, List.splitOnPPrepend_nil_right, hlisting,
    splitOnP_flatMap hzero htexts, List.reverse_nil, List.nil_append, List.filter_append,
    List.filter_eq_self.2 hne]
  simp

theorem entriesFrom_texts {rows : List (Row Piece)} (h : ∀ r ∈ rows, r.IsProper)
    (done : List Entry) :
    entriesFrom done (rows.map (Row.text .char)) = (done.reverse ++ rows.map Row.entry, none) := by
  induction rows generalizing done with
  | nil => simp [entriesFrom]
  | cons r rows ih =>
    rw [List.forall_mem_cons] at h
    rw [List.map_cons, entriesFrom, h.1.ofRecord_text]
    dsimp only
    rw [ih h.2, List.reverse_cons, List.append_assoc]
    rfl

/-! ## 5. Bytes -/

/-- Characters of ASCII are pieces of their own. -/
theorem pieces_ascii {s : List Char} (h : ∀ c ∈ s, c.toNat < 128) :
    Text.pieces (s.map Char.toUInt8) = s.map .char := by
  induction s with
  | nil => exact Text.pieces_nil
  | cons c s ih =>
    rw [List.forall_mem_cons] at h
    have hbyte : c.toUInt8.toNat = c.toNat := Nat.mod_eq_of_lt (Nat.lt_trans h.1 (by decide))
    have hfirst := Text.pieces_append_ascii (b := c.toUInt8) (by omega) [] (s.map Char.toUInt8)
    rw [hbyte, Char.ofNat_toNat, Text.pieces_nil, ih h.2] at hfirst
    exact hfirst

/-- The pieces of a row are those of its fields and its path. -/
theorem pieces_text {r : Row UInt8} (h : (r.map Text.pieces).IsProper) (rest : List UInt8) :
    Text.pieces (r.text Char.toUInt8 ++ '\x00'.toUInt8 :: rest) =
      (r.map Text.pieces).text .char ++ .char '\x00' :: Text.pieces rest := by
  have hsize : ∀ c ∈ List.replicate r.padding ' ' ++ r.sizeText, c.toNat < 128 := by
    intro c hc
    rcases List.mem_append.1 hc with hc | hc
    · rw [List.eq_of_mem_replicate hc]
      decide
    · rcases h.sizeText_cases.2 c hc with hdigit | rfl
      · exact Text.isAscii_of_isDigit hdigit
      · decide
  -- what separates the fields is ASCII, so no piece goes across it
  have hspace : ∀ before behind, Text.pieces (before ++ ' '.toUInt8 :: behind) =
      Text.pieces before ++ .char ' ' :: Text.pieces behind :=
    Text.pieces_append_ascii (by decide)
  have htab : ∀ before behind, Text.pieces (before ++ '\t'.toUInt8 :: behind) =
      Text.pieces before ++ .char '\t' :: Text.pieces behind :=
    Text.pieces_append_ascii (by decide)
  have hzero : ∀ before behind, Text.pieces (before ++ '\x00'.toUInt8 :: behind) =
      Text.pieces before ++ .char '\x00' :: Text.pieces behind :=
    Text.pieces_append_ascii (by decide)
  simp only [Row.text, Row.front, List.append_assoc, List.cons_append, hspace, htab, hzero,
    pieces_ascii hsize]
  rfl

theorem pieces_listing {rows : List (Row UInt8)}
    (h : ∀ r ∈ rows, (r.map Text.pieces).IsProper) :
    Text.pieces (Row.listing Char.toUInt8 rows) =
      Row.listing .char (rows.map (Row.map Text.pieces)) := by
  induction rows with
  | nil => exact Text.pieces_nil
  | cons r rows ih =>
    rw [List.forall_mem_cons] at h
    have hcons : ∀ {α : Type} (sign : Char → α) (r : Row α) (rows : List (Row α)),
        Row.listing sign (r :: rows) = r.text sign ++ sign '\x00' :: Row.listing sign rows := by
      intro α sign r rows
      rw [Row.listing, List.flatMap_cons, List.append_assoc]
      rfl
    rw [hcons, pieces_text h.1, ih h.2, List.map_cons, hcons]

/-- A list is read as just the entries that it was written from, in their order: as pieces of text, and
as the bytes that these are decoded from. -/
theorem readListing_listing {rows : List (Row Piece)} (h : ∀ r ∈ rows, r.IsProper) :
    entriesFrom [] (records (Row.listing .char rows)) = (rows.map Row.entry, none) ∧
      ∀ written : List (Row UInt8), written.map (Row.map Text.pieces) = rows →
        readListing (Row.listing Char.toUInt8 written) = (rows.map Row.entry, none) := by
  have hread : entriesFrom [] (records (Row.listing .char rows)) = (rows.map Row.entry, none) := by
    rw [records_listing h, entriesFrom_texts h]
    rfl
  refine ⟨hread, ?_⟩
  rintro written rfl
  rw [List.forall_mem_map] at h
  rw [readListing, pieces_listing h]
  exact hread

/-- A path with blanks of every kind in it, and one that is no text. -/
theorem readListing_listing_blanks :
    let rows : List (Row UInt8) :=
      [⟨"100644".toList.map Char.toUInt8, "blob".toList.map Char.toUInt8,
          "ab".toList.map Char.toUInt8, 5, some ['1', '2'], " a\tb\n".toList.map Char.toUInt8⟩,
        ⟨"040000".toList.map Char.toUInt8, "tree".toList.map Char.toUInt8,
          "cd".toList.map Char.toUInt8, 0, none, [0x78, 0xe9]⟩]
    (∀ r ∈ rows.map (Row.map Text.pieces), r.IsProper) ∧
      readListing (Row.listing Char.toUInt8 rows) =
        ([⟨"100644", "blob", "ab", some 12, " a\tb\n".toList.map .char⟩,
          ⟨"040000", "tree", "cd", none, [.char 'x', .undecodable [0xe9]]⟩], none) := by
  intro rows
  have hpieces : rows.map (Row.map Text.pieces) =
      [⟨"100644".toList.map .char, "blob".toList.map .char, "ab".toList.map .char, 5,
          some ['1', '2'], " a\tb\n".toList.map .char⟩,
        ⟨"040000".toList.map .char, "tree".toList.map .char, "cd".toList.map .char, 0, none,
          [.char 'x', .undecodable [0xe9]]⟩] := by
    decide +kernel
  have hproper : ∀ r ∈ rows.map (Row.map Text.pieces), r.IsProper := by
    rw [hpieces]
    simp only [List.forall_mem_cons, List.not_mem_nil, false_implies, implies_true, and_true]
    refine ⟨⟨by decide, ?_, by decide⟩, by decide, ?_, by decide⟩
    · rintro digits ⟨⟩
      exact ⟨by decide, by decide, List.all_eq_true.1 rfl⟩
    · rintro digits ⟨⟩
  refine ⟨hproper, ((readListing_listing hproper).2 rows rfl).trans ?_⟩
  rw [hpieces]
  decide

end FileQuery.Git
