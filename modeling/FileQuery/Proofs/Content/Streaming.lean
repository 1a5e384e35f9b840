import FileQuery.Proofs.Evaluate.Scan
import FileQuery.Proofs.Text.Decoding

/-!
# Looking through a stream

A scanner sees a text in pieces.  However the bytes of a stream are cut into chunks, and also within a
character, the pieces make up the longest text that the bytes begin with; and what a scanner remembers
of the pieces that it has seen is enough to answer for all of that text.
-/

namespace FileQuery.Content

variable {limits : LineLimits} {s : Scanner} {b : Bool}

/-! ## 1. Pieces of a text -/

def Scanner.feedAll (limits : LineLimits) (pieces : List (List Char)) (s : Scanner) : Scanner :=
  pieces.foldl (fun s piece => s.feed limits piece) s

/-- What a scanner answers in the end; if the bytes after the text are no text, it gives up. -/
def Scanner.answer (isText : Bool) (s : Scanner) : Bool :=
  if isText then s.finish else s.abort.finish

theorem Scanner.answer_of_result (isText : Bool) (h : s.result = some b) :
    s.answer isText = b := by
  cases isText with
  | true => exact finish_of_result h
  | false =>
    show s.abort.finish = b
    rw [finish_abort, h]
    rfl

/-- A scanner that is decided takes no more. -/
theorem Scanner.feedAll_of_result (pieces : List (List Char)) (h : s.result = some b) :
    s.feedAll limits pieces = s := by
  induction pieces with
  | nil => rfl
  | cons piece pieces ih =>
    show (s.feed limits piece).feedAll limits pieces = s
    rw [feed_of_result piece h, ih]

/-- A property of what has been seen and what is remembered of it, which holds at the start and which
every piece keeps, holds in the end. -/
theorem Scanner.feedAll_induction {P : List Char → Scanner → Prop}
    (hdecided : ∀ seen piece s b, s.result = some b → P seen s → P (seen ++ piece) s)
    (hstep : ∀ seen piece s, piece ≠ [] → s.result = none → P seen s →
      P (seen ++ piece) (s.progress.feed limits piece))
    {seen : List Char} (pieces : List (List Char)) (h : P seen s) :
    P (seen ++ pieces.flatten) (s.feedAll limits pieces) := by
  induction pieces generalizing seen s with
  | nil =>
    rw [List.flatten_nil, List.append_nil]
    exact h
  | cons piece pieces ih =>
    -- an empty piece and a scanner with an answer change nothing
    have hnext : P (seen ++ piece) (s.feed limits piece) := by
      cases hresult : s.result with
      | some b =>
        rw [feed_of_result piece hresult]
        exact hdecided seen piece s b hresult h
      | none =>
        by_cases hpiece : piece = []
        · rw [hpiece, List.append_nil, feed, if_pos (by simp)]
          exact h
        · rw [feed, if_neg (by simp [isDecided, hresult, hpiece])]
          exact hstep seen piece s hpiece hresult h
    rw [List.flatten_cons, ← List.append_assoc]
    exact ih hnext

/-! ## 2. Chunks of bytes -/

/-- What chunks are decoded to, one after another: their texts, and what is wrong with the first whose
bytes are no text.  After that nothing is decoded any more. -/
def decodeChunks (state : Text.Utf8State) :
    List (List UInt8) → List (List Char × Option Text.Utf8Fault)
  | [] => []
  | chunk :: rest =>
    match Text.decode state chunk with
    | (text, .ok next) => (text, none) :: decodeChunks next rest
    | (text, .error e) => [(text, some e)]

section chunks

variable {state next : Text.Utf8State} {chunk : List UInt8} {text : List Char} {e : Text.Utf8Fault}

theorem decodeChunks_cons (rest : List (List UInt8))
    (h : Text.decode state chunk = (text, .ok next)) :
    decodeChunks state (chunk :: rest) = (text, none) :: decodeChunks next rest := by
  rw [decodeChunks, h]

theorem decodeChunks_cons_bad (rest : List (List UInt8))
    (h : Text.decode state chunk = (text, .error e)) :
    decodeChunks state (chunk :: rest) = [(text, some e)] := by
  rw [decodeChunks, h]

end chunks

def pieces (state : Text.Utf8State) (chunks : List (List UInt8)) : List (List Char) :=
  (decodeChunks state chunks).map Prod.fst

/-- A pass over chunks shows a scanner the text that their bytes begin with. -/
theorem flatten_pieces (state : Text.Utf8State) (chunks : List (List UInt8)) :
    (pieces state chunks).flatten = (state.read chunks.flatten).1 := by
  induction chunks generalizing state with
  | nil => rfl
  | cons chunk rest ih =>
    rw [List.flatten_cons, state.read_append]
    rcases hdecode : Text.decode state chunk with ⟨text, e | next⟩
    · rw [pieces, decodeChunks_cons_bad rest hdecode, Text.read_of_decode hdecode]
      exact List.append_nil text
    · rw [pieces, decodeChunks_cons rest hdecode, Text.read_of_decode hdecode]
      exact congrArg (text ++ ·) (ih next)

/-- What comes out of a scanner is its answer after all pieces of a stream, unless that breaks off. -/
theorem Scanner.outcome_eq_answer (ε : Type) (limits : LineLimits) (state : Text.Utf8State)
    (s : Scanner) (chunks : List (List UInt8)) :
    s.outcome limits (none : Option ε) state chunks = .ok ((s.feedAll limits
      (pieces state chunks)).answer ((state.read chunks.flatten).2 == some .between)) := by
  induction chunks generalizing state s with
  | nil =>
    rw [outcome_nil]
    cases state with
    | between => exact s.ending_none
    | inside => exact s.abort.ending_none
  | cons chunk rest ih =>
    rw [List.flatten_cons, state.read_append]
    rcases hdecode : Text.decode state chunk with ⟨text, e | next⟩
    · -- no more is decoded after a byte that is refused
      rw [s.outcome_cons_bad rest hdecode, ending_none, pieces, decodeChunks_cons_bad rest hdecode,
        Text.read_of_decode hdecode]
      rfl
    · rw [s.outcome_cons rest hdecode, ih, pieces, pieces, decodeChunks_cons rest hdecode,
        Text.read_of_decode hdecode]
      rfl

section unstopped

variable {ε : Type} {fault : Option ε} {state next : Text.Utf8State} {taken : Nat}
variable {scanners : List Scanner} {chunk : List UInt8} {text : List Char}

/-- Bytes that are no text end a pass. -/
theorem scanFrom_cons_bad {e : Text.Utf8Fault} (rest : List (List UInt8))
    (h : Text.decode state chunk = (text, .error e)) :
    Id.run (scanFrom limits (fun _ => false) fault state taken scanners (chunk :: rest)) =
      ⟨(scanners.map (Scanner.feed limits text)).map Scanner.abort, taken + 1, none, some e⟩ := by
  rw [scanFrom, h]
  rfl

/-- A pass that nothing else stops ends when all scanners are decided. -/
theorem scanFrom_cons (rest : List (List UInt8)) (h : Text.decode state chunk = (text, .ok next)) :
    Id.run (scanFrom limits (fun _ => false) fault state taken scanners (chunk :: rest)) =
      if (scanners.map (Scanner.feed limits text)).all Scanner.isDecided then
        ⟨scanners.map (Scanner.feed limits text), taken + 1, none, none⟩
      else Id.run (scanFrom limits (fun _ => false) fault next (taken + 1)
        (scanners.map (Scanner.feed limits text)) rest) := by
  rw [scanFrom, h]
  dsimp only
  split <;> rfl

end unstopped

/-- In a shared pass every scanner has its own outcome. -/
theorem map_finish_scanFrom (limits : LineLimits) (state : Text.Utf8State) (taken : Nat)
    (scanners : List Scanner) (chunks : List (List UInt8)) :
    (Id.run (scanFrom limits (fun _ => false) none state taken scanners chunks) :
        Scanned Empty).scanners.map (fun s => .ok s.finish) =
      scanners.map fun s => s.outcome limits (none : Option Empty) state chunks := by
  induction chunks generalizing state taken scanners with
  | nil =>
    rw [scanFrom]
    cases state with
    | between =>
      refine List.map_congr_left fun s _ => ?_
      rw [s.outcome_nil]
      exact s.ending_none.symm
    | inside =>
      show (scanners.map Scanner.abort).map _ = _
      rw [List.map_map]
      refine List.map_congr_left fun s _ => ?_
      rw [s.outcome_nil]
      exact s.abort.ending_none.symm
  | cons chunk rest ih =>
    rcases hdecode : Text.decode state chunk with ⟨text, e | next⟩
    · rw [scanFrom_cons_bad rest hdecode, List.map_map, List.map_map]
      refine List.map_congr_left fun s _ => ?_
      rw [s.outcome_cons_bad rest hdecode, Scanner.ending_none]
      rfl
    · have hrest : scanners.map (Scanner.outcome limits (none : Option Empty) state · (chunk :: rest)) =
          (scanners.map (Scanner.feed limits text)).map
            (Scanner.outcome limits (none : Option Empty) next · rest) := by
        rw [List.map_map]
        exact List.map_congr_left fun s _ => s.outcome_cons rest hdecode
      rw [scanFrom_cons rest hdecode, hrest]
      -- a pass that ends early does so with all answers
      split
      · next hall =>
        refine List.map_congr_left fun s hs => ?_
        obtain ⟨b, hb⟩ := Option.isSome_iff_exists.1 (List.all_eq_true.1 hall s hs)
        rw [Scanner.outcome_of_result _ _ hb, Scanner.finish_of_result hb]
      · exact ih next (taken + 1) _

theorem any_finish_scanFrom (limits : LineLimits) (state : Text.Utf8State) (taken : Nat)
    (s : Scanner) (chunks : List (List UInt8)) :
    s.outcome limits (none : Option Empty) state chunks =
      .ok ((Id.run (scanFrom limits (fun _ => false) none state taken [s] chunks) :
        Scanned Empty).scanners.any Scanner.finish) := by
  have hmap := map_finish_scanFrom limits state taken [s] chunks
  obtain ⟨seen, hseen, hfinish⟩ := List.map_eq_singleton_iff.1 hmap
  have houtcome : Except.ok seen.finish = s.outcome limits (none : Option Empty) state chunks := hfinish
  rw [← houtcome, hseen, List.any_cons, List.any_nil, Bool.or_false]

/-- The outcome of a scanner in a pass of its own is whether the bytes satisfy its condition. -/
theorem Scanner.outcome_start (limits : LineLimits) (m : Matcher) (chunks : List (List UInt8)) :
    (start m).outcome limits (none : Option Empty) .between chunks = .ok (m.holds limits chunks) :=
  any_finish_scanFrom limits .between 0 (start m) chunks

/-- Whether the bytes of chunks satisfy a condition: a scanner is shown the text that they begin
with, in pieces, and then answers. -/
theorem exists_pieces_holds (limits : LineLimits) (chunks : List (List UInt8)) :
    ∃ pieces, pieces.flatten = (Text.Utf8State.between.read chunks.flatten).1 ∧ ∀ m : Matcher,
      m.holds limits chunks = ((Scanner.start m).feedAll limits pieces).answer
        ((Text.Utf8State.between.read chunks.flatten).2 == some .between) := by
  refine ⟨pieces .between chunks, flatten_pieces .between chunks, fun m => ?_⟩
  have hpass := Scanner.outcome_start limits m chunks
  rw [Scanner.outcome_eq_answer] at hpass
  exact (Except.ok.inj hpass).symm

/-- The bytes of a text, however they are cut, show a scanner that text in pieces. -/
theorem exists_pieces_encode (limits : LineLimits) {text : List Char} {chunks : List (List UInt8)}
    (hchunks : chunks.flatten = Text.encode text) :
    ∃ pieces, pieces.flatten = text ∧ ∀ m : Matcher,
      m.holds limits chunks = ((Scanner.start m).feedAll limits pieces).answer true := by
  obtain ⟨pieces, hpieces, hholds⟩ := exists_pieces_holds limits chunks
  have hread := Text.Utf8State.read_encode text []
  rw [List.append_nil] at hread
  rw [hchunks, hread] at hpieces hholds
  exact ⟨pieces, hpieces.trans (List.append_nil text), hholds⟩

/-- Chunks that hold the bytes of one text each show a scanner these texts as the pieces. -/
theorem pieces_map_encode (texts : List (List Char)) :
    pieces .between (texts.map Text.encode) = texts := by
  induction texts with
  | nil => rfl
  | cons text texts ih =>
    rw [List.map_cons, pieces, decodeChunks_cons _ (Text.decode_encode text)]
    exact congrArg (text :: ·) ih

theorem flatten_map_encode (texts : List (List Char)) :
    (texts.map Text.encode).flatten = Text.encode texts.flatten := by
  induction texts with
  | nil => rfl
  | cons text texts ih =>
    rw [List.map_cons, List.flatten_cons, ih, List.flatten_cons, Text.encode_append]

theorem holds_map_encode (limits : LineLimits) (m : Matcher) (texts : List (List Char)) :
    m.holds limits (texts.map Text.encode) =
      ((Scanner.start m).feedAll limits texts).answer true := by
  have hpass := Scanner.outcome_start limits m (texts.map Text.encode)
  rw [Scanner.outcome_eq_answer, pieces_map_encode, flatten_map_encode,
    Text.read_of_decode (Text.decode_encode texts.flatten)] at hpass
  exact (Except.ok.inj hpass).symm

/-! ## 3. A text that occurs anywhere -/

section occurrences

variable {a b needle seen text : List Char}

theorem occursIn_iff (needle text : List Char) :
    Text.occursIn needle text = true ↔ needle <:+: text := by
  induction text with
  | nil => rw [Text.occursIn, List.isEmpty_iff, List.infix_nil]
  | cons c rest ih =>
    rw [Text.occursIn, Bool.or_eq_true, List.isPrefixOf_iff_prefix, ih, List.infix_cons_iff]

/-- An occurrence in a text with something after it lies in the text or goes beyond it. -/
theorem occurrence_append (h : a ++ needle ++ b = seen ++ text) :
    (∃ c, seen = a ++ needle ++ c ∧ b = c ++ text) ∨ seen.length < a.length + needle.length := by
  rcases List.append_eq_append_iff.1 h with hwithin | hbeyond
  · obtain ⟨c, hc, htext⟩ := hwithin
    exact .inl ⟨c, hc, htext⟩
  · obtain ⟨c, hc, htext⟩ := hbeyond
    cases c with
    | nil => exact .inl ⟨[], by rw [hc, List.append_nil, List.append_nil], htext.symm⟩
    | cons x c =>
      have hlength := congrArg List.length hc
      rw [List.length_append, List.length_append, List.length_cons] at hlength
      exact .inr (by omega)

/-- What begins no earlier than the second part lies in it. -/
theorem exists_append_of_length_le {dropped kept rest : List Char} (h : a ++ rest = dropped ++ kept)
    (hlength : dropped.length ≤ a.length) : ∃ c, a = dropped ++ c ∧ kept = c ++ rest := by
  obtain ⟨c, rfl⟩ := List.prefix_of_prefix_length_le ⟨kept, rfl⟩ ⟨rest, h⟩ hlength
  rw [List.append_assoc] at h
  exact ⟨c, rfl, (List.append_cancel_left h).symm⟩

/-- An occurrence that begins no earlier than the second part lies in it. -/
theorem exists_occurrence_of_length_le {dropped kept : List Char}
    (h : dropped ++ kept = a ++ needle ++ b) (hlength : dropped.length ≤ a.length) :
    ∃ c, a = dropped ++ c ∧ kept = c ++ needle ++ b := by
  rw [List.append_assoc a] at h
  obtain ⟨c, ha, hkept⟩ := exists_append_of_length_le h.symm hlength
  exact ⟨c, ha, by rw [hkept, List.append_assoc]⟩

theorem length_lastOf (n : Nat) (xs : List Char) : (lastOf n xs).length = min n xs.length := by
  rw [lastOf, List.length_drop]
  omega

/-- A list is what comes before its last elements, and these. -/
theorem take_append_lastOf (n : Nat) (xs : List Char) :
    xs.take (xs.length - n) ++ lastOf n xs = xs := List.take_append_drop _ _

theorem lastOf_of_length_le {n : Nat} {xs : List Char} (h : xs.length ≤ n) : lastOf n xs = xs := by
  rw [lastOf, Nat.sub_eq_zero_of_le h, List.drop_zero]

theorem lastOf_append {n : Nat} (xs : List Char) {ys : List Char} (h : n ≤ ys.length) :
    lastOf n (xs ++ ys) = lastOf n ys := by
  rw [lastOf, lastOf, List.length_append, Nat.add_sub_assoc h, List.drop_length_add_append]

/-- The last elements can be kept from one piece to the next. -/
theorem lastOf_lastOf_append (n : Nat) (xs ys : List Char) :
    lastOf n (lastOf n xs ++ ys) = lastOf n (xs ++ ys) := by
  by_cases h : n ≤ xs.length
  · have hkept : n ≤ (lastOf n xs ++ ys).length := by
      rw [List.length_append, length_lastOf]
      omega
    calc lastOf n (lastOf n xs ++ ys)
        = lastOf n (xs.take (xs.length - n) ++ (lastOf n xs ++ ys)) := (lastOf_append _ hkept).symm
      _ = lastOf n (xs ++ ys) := by rw [← List.append_assoc, take_append_lastOf]
  · rw [lastOf_of_length_le (Nat.le_of_not_le h)]

/-- A text that has not occurred yet can only occur from within the last characters on. -/
theorem infix_append_iff (h : ¬ needle <:+: seen) :
    needle <:+: seen ++ text ↔ needle <:+: lastOf (needle.length - 1) seen ++ text := by
  have hseen := take_append_lastOf (needle.length - 1) seen
  constructor
  · rintro ⟨a, b, hab⟩
    rcases occurrence_append hab with ⟨c, hc, -⟩ | hbeyond
    · exact absurd ⟨a, c, hc.symm⟩ h
    · have hdropped : (seen.take (seen.length - (needle.length - 1))).length ≤ a.length := by
        rw [List.length_take]
        omega
      rw [← hseen, List.append_assoc (seen.take _)] at hab
      obtain ⟨c, -, hc⟩ := exists_occurrence_of_length_le hab.symm hdropped
      exact ⟨c, b, hc.symm⟩
  · intro hkept
    rw [← hseen, List.append_assoc]
    exact hkept.trans (List.suffix_append _ _).isInfix

end occurrences

/-- What a scanner for a text knows: the text has occurred, or it has not and the end of what has been
seen is remembered. -/
def Scanner.LooksFor (needle seen : List Char) (s : Scanner) : Prop :=
  s.result = some true ∧ needle <:+: seen ∨
    s = ⟨.contains needle (lastOf (needle.length - 1) seen), none⟩ ∧ ¬ needle <:+: seen

theorem Scanner.looksFor_start {needle : String} (h : needle ≠ "") :
    (Scanner.start (.contains needle)).LooksFor needle.toList [] := by
  refine .inr ⟨by rw [lastOf, List.drop_nil]; rfl, fun hoccurs => h ?_⟩
  rw [List.infix_nil, String.toList_eq_nil_iff] at hoccurs
  exact hoccurs

theorem Scanner.LooksFor.feed {needle seen : List Char} (h : s.LooksFor needle seen)
    (hresult : s.result = none) (text : List Char) :
    (s.progress.feed limits text).LooksFor needle (seen ++ text) := by
  rcases h with ⟨htrue, -⟩ | ⟨rfl, hnot⟩
  · rw [hresult] at htrue
    cases htrue
  · rw [Progress.feed]
    by_cases hoccurs : needle <:+: lastOf (needle.length - 1) seen ++ text
    · rw [if_pos ((occursIn_iff _ _).2 hoccurs)]
      exact .inl ⟨rfl, (infix_append_iff hnot).2 hoccurs⟩
    · rw [if_neg (mt (occursIn_iff _ _).1 hoccurs), lastOf_lastOf_append]
      exact .inr ⟨rfl, mt (infix_append_iff hnot).1 hoccurs⟩

theorem Scanner.LooksFor.feedAll (limits : LineLimits) {needle seen : List Char}
    (h : s.LooksFor needle seen) (pieces : List (List Char)) :
    (s.feedAll limits pieces).LooksFor needle (seen ++ pieces.flatten) := by
  refine feedAll_induction ?_ (fun seen piece s _ hresult h => h.feed hresult piece) pieces h
  rintro seen piece s b hresult (⟨htrue, hoccurs⟩ | ⟨rfl, -⟩)
  · exact .inl ⟨htrue, hoccurs.trans (List.prefix_append _ _).isInfix⟩
  · cases hresult

theorem Scanner.LooksFor.answer_iff {needle seen : List Char} (h : s.LooksFor needle seen)
    (isText : Bool) : s.answer isText = true ↔ needle <:+: seen := by
  rcases h with ⟨htrue, hoccurs⟩ | ⟨rfl, hnot⟩
  · rw [answer_of_result isText htrue]
    exact iff_of_true rfl hoccurs
  · refine iff_of_false ?_ hnot
    cases isText with
    | true =>
      show ¬ Text.occursIn needle (lastOf (needle.length - 1) seen) = true
      rw [occursIn_iff]
      exact fun hoccurs => hnot (hoccurs.trans (List.drop_suffix _ _).isInfix)
    | false => exact Bool.false_ne_true

/-- A text is found exactly if it occurs in the text that the bytes begin with. -/
theorem holds_contains_iff (limits : LineLimits) (chunks : List (List UInt8)) {needle : String}
    (h : needle ≠ "") : (Matcher.contains needle).holds limits chunks = true ↔
      needle.toList <:+: (Text.Utf8State.between.read chunks.flatten).1 := by
  obtain ⟨pieces, hpieces, hholds⟩ := exists_pieces_holds limits chunks
  have hlooks := (Scanner.looksFor_start h).feedAll limits pieces
  rw [hholds, hlooks.answer_iff, List.nil_append, hpieces]

/-! ## 4. The whole text -/

/-- What a scanner for a whole text knows: what is still expected, or that the text is another. -/
def Scanner.Compares (expected seen : List Char) (s : Scanner) : Prop :=
  (∃ rest, s = ⟨.equals rest, none⟩ ∧ seen ++ rest = expected) ∨
    s.result = some false ∧ ¬ seen <+: expected

theorem Scanner.compares_start (expected : String) :
    (Scanner.start (.equals expected)).Compares expected.toList [] :=
  .inl ⟨expected.toList, rfl, rfl⟩

theorem Scanner.Compares.feed {expected seen : List Char} (h : s.Compares expected seen)
    (hresult : s.result = none) (text : List Char) :
    (s.progress.feed limits text).Compares expected (seen ++ text) := by
  rcases h with ⟨rest, rfl, rfl⟩ | ⟨hfalse, -⟩
  · rw [Progress.feed]
    by_cases hfront : text <+: rest
    · obtain ⟨more, rfl⟩ := hfront
      rw [if_pos (List.isPrefixOf_iff_prefix.2 (List.prefix_append _ _)), List.drop_left]
      exact .inl ⟨more, rfl, List.append_assoc _ _ _⟩
    · rw [if_neg (mt List.isPrefixOf_iff_prefix.1 hfront)]
      exact .inr ⟨rfl, mt (List.prefix_append_right_inj seen).1 hfront⟩
  · rw [hresult] at hfalse
    cases hfalse

theorem Scanner.Compares.feedAll (limits : LineLimits) {expected seen : List Char}
    (h : s.Compares expected seen) (pieces : List (List Char)) :
    (s.feedAll limits pieces).Compares expected (seen ++ pieces.flatten) := by
  refine feedAll_induction ?_ (fun seen piece s _ hresult h => h.feed hresult piece) pieces h
  rintro seen piece s b hresult (⟨rest, rfl, -⟩ | ⟨hfalse, hfront⟩)
  · cases hresult
  · exact .inr ⟨hfalse, fun hmore => hfront ((List.prefix_append _ _).trans hmore)⟩

theorem Scanner.Compares.answer_iff {expected seen : List Char} (h : s.Compares expected seen)
    (isText : Bool) : s.answer isText = true ↔ isText = true ∧ seen = expected := by
  rcases h with ⟨rest, rfl, rfl⟩ | ⟨hfalse, hfront⟩
  · cases isText with
    | true =>
      show rest.isEmpty = true ↔ _
      rw [List.isEmpty_iff, and_iff_right rfl, List.self_eq_append_right]
    | false => exact iff_of_false Bool.false_ne_true fun hboth => Bool.false_ne_true hboth.1
  · rw [answer_of_result isText hfalse]
    exact iff_of_false Bool.false_ne_true fun hboth => hfront (hboth.2 ▸ List.prefix_refl seen)

/-- A text is the whole content exactly if the bytes are its encoding. -/
theorem holds_equals_iff (limits : LineLimits) (chunks : List (List UInt8)) (expected : String) :
    (Matcher.equals expected).holds limits chunks = true ↔
      Text.encode (Text.Utf8State.between.read chunks.flatten).1 = chunks.flatten ∧
        (Text.Utf8State.between.read chunks.flatten).1 = expected.toList := by
  obtain ⟨pieces, hpieces, hholds⟩ := exists_pieces_holds limits chunks
  have hcompares := (Scanner.compares_start expected).feedAll limits pieces
  rw [hholds, hcompares.answer_iff, List.nil_append, hpieces, beq_iff_eq,
    Text.Utf8State.read_eq_between_iff]

/-- How the bytes are cut does not matter: there is a longest text that they begin with, in which
another is found exactly if it occurs there, and which is the whole content exactly if the bytes are
its encoding. -/
theorem holds_iff_longestText (limits : LineLimits) (chunks : List (List UInt8)) :
    (∃ text, Text.IsLongestText chunks.flatten text) ∧
      ∀ text, Text.IsLongestText chunks.flatten text →
        (∀ needle : String, needle ≠ "" →
          ((Matcher.contains needle).holds limits chunks = true ↔ needle.toList <:+: text)) ∧
        ∀ expected : String, (Matcher.equals expected).holds limits chunks = true ↔
          Text.encode text = chunks.flatten ∧ text = expected.toList := by
  refine ⟨⟨_, Text.Utf8State.isLongestText_read _⟩, fun text htext => ?_⟩
  rw [htext.eq_read]
  exact ⟨fun needle h => holds_contains_iff limits chunks h, holds_equals_iff limits chunks⟩

/-- The bytes of `aéb`, cut within the second character, and a byte that begins no character. -/
theorem holds_iff_longestText_refused :
    (Matcher.contains "éb").holds {} [[0x61, 0xc3], [], [0xa9, 0x62, 0xff]] = true ∧
      (Matcher.equals "aéb").holds {} [[0x61, 0xc3], [], [0xa9, 0x62, 0xff]] = false := by
  have hlongest : Text.IsLongestText [0x61, 0xc3, 0xa9, 0x62, 0xff] ['a', 'é', 'b'] :=
    Text.Utf8State.isLongestText_read [0x61, 0xc3, 0xa9, 0x62, 0xff]
  obtain ⟨hcontains, hequals⟩ :=
    (holds_iff_longestText {} [[0x61, 0xc3], [], [0xa9, 0x62, 0xff]]).2 _ hlongest
  refine ⟨(hcontains "éb" (by decide)).2 ⟨['a'], [], by decide⟩, ?_⟩
  rw [Bool.eq_false_iff]
  intro hholds
  have hbytes := ((hequals "aéb").1 hholds).1
  revert hbytes
  decide

end FileQuery.Content
