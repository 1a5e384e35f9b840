import FileQuery.Proofs.Content.Lines

/-!
# Holding parts of lines

Of a line that is too long, a scanner for a regular expression holds a part.  Whatever is known of the
parts that it holds, as long as it is known of a whole line and kept when more comes and when the line is
cut, is known of every part in which the pattern is looked for.  Thus no more is held of a line than may be,
and of a line that is cut always more than the overlap.
-/

namespace FileQuery.Content

variable {limits : LineLimits} {p : Pattern} {s : Scanner} {text rest : List Char}
variable {dropped buffer line : List Char} {skip : Nat}

/-! ## 1. Parts -/

/-- What is known of the part of a line that is held: of the characters that were dropped, those that are
held, and how many of these, at the front, are there only as context. -/
abbrev PartLaw := List Char → List Char → Nat → Prop

/-- A law of all parts that are held: of a whole line, of a part that more is added to, and of the end of
a part that is too long and in which no match has been found.  Of a line that is not empty something is
held. -/
structure PartLaw.IsKept (limits : LineLimits) (p : Pattern) (W : PartLaw) : Prop where
  whole : ∀ line, W [] line 0
  append : ∀ dropped buffer skip text, W dropped buffer skip → W dropped (buffer ++ text) skip
  keepEnd : ∀ dropped buffer skip, W dropped buffer skip → limits.length < buffer.length →
    isInside p skip buffer = false →
    W (dropped ++ buffer.take (buffer.length - (limits.overlap + 1)))
      (lastOf (limits.overlap + 1) buffer) 1
  held : ∀ dropped skip, W dropped [] skip → dropped = []

/-- A line has been searched: the pattern was found in the part that was left of it, or not. -/
def PartLaw.Searched (W : PartLaw) (p : Pattern) (found : Bool) (line : List Char) : Prop :=
  ∃ dropped buffer skip, line = dropped ++ buffer ∧ W dropped buffer skip ∧ isIn p skip buffer = found

/-- A pattern has been found inside a part of a line that was too long to be held. -/
def PartLaw.FoundInside (W : PartLaw) (limits : LineLimits) (p : Pattern) (line : List Char) : Prop :=
  ∃ dropped buffer skip, dropped ++ buffer <+: line ∧ W dropped buffer skip ∧
    limits.length < buffer.length ∧ isInside p skip buffer = true

variable {W : PartLaw}

/-- A pattern has been found in a text: in a line that is finished, or inside a part of a line. -/
def PartLaw.FoundIn (W : PartLaw) (limits : LineLimits) (p : Pattern) (text : List Char) : Prop :=
  (∃ line ∈ finishedLines text, W.Searched p true line) ∨
    ∃ line ∈ text.splitOn '\n', W.FoundInside limits p line

/-- A part of a line is held, which is not too long, and nothing has been found. -/
def Scanner.HoldsPart (W : PartLaw) (limits : LineLimits) (p : Pattern) (isFresh : Bool)
    (line : List Char) (s : Scanner) : Prop :=
  ∃ dropped buffer skip, s = ⟨.line p buffer skip isFresh, none⟩ ∧ line = dropped ++ buffer ∧
    W dropped buffer skip ∧ buffer.length ≤ max limits.length (limits.overlap + 1)

/-- What a scanner knows of a text: the pattern has been found, or it was in no finished line and a part
of the unfinished one is held. -/
def Scanner.SearchesParts (W : PartLaw) (limits : LineLimits) (p : Pattern) (seen : List Char)
    (s : Scanner) : Prop :=
  s.result = some true ∧ W.FoundIn limits p seen ∨
    s.HoldsPart W limits p seen.isEmpty (unfinishedLine seen) ∧
      ∀ line ∈ finishedLines seen, W.Searched p false line

/-! ## 2. Lines that go on -/

theorem PartLaw.FoundInside.of_isPrefix {more : List Char} (h : W.FoundInside limits p line)
    (hbegin : line <+: more) : W.FoundInside limits p more := by
  obtain ⟨dropped, buffer, skip, hline, hrest⟩ := h
  exact ⟨dropped, buffer, skip, hline.trans hbegin, hrest⟩

/-- What has been found stays found. -/
theorem PartLaw.FoundIn.append (h : W.FoundIn limits p text) (more : List Char) :
    W.FoundIn limits p (text ++ more) := by
  rcases h with ⟨line, hline, hfound⟩ | ⟨line, hline, hinside⟩
  · refine .inl ⟨line, ?_, hfound⟩
    rw [finishedLines_append]
    exact List.mem_append_left _ hline
  · obtain ⟨line', hline', hbegin⟩ := exists_mem_splitOn_append hline more
    exact .inr ⟨line', hline', hinside.of_isPrefix hbegin⟩

/-- In the lines that a piece finishes, the first of which is known by its part. -/
theorem PartLaw.searched_of_isInLines (hW : W.IsKept limits p) (h : W dropped buffer skip)
    (lines : List (List Char)) :
    (isInLines p skip (lines.modifyHead (buffer ++ ·)) = true →
      ∃ line ∈ lines.modifyHead (dropped ++ buffer ++ ·), W.Searched p true line) ∧
    (isInLines p skip (lines.modifyHead (buffer ++ ·)) = false →
      ∀ line ∈ lines.modifyHead (dropped ++ buffer ++ ·), W.Searched p false line) := by
  cases lines with
  | nil => exact ⟨nofun, fun _ line hline => absurd hline List.not_mem_nil⟩
  | cons first others =>
    simp only [List.modifyHead_cons, isInLines]
    -- only the first line has a part that came before
    have hfirst (found : Bool) (hin : isIn p skip (buffer ++ first) = found) :
        W.Searched p found (dropped ++ buffer ++ first) :=
      ⟨dropped, buffer ++ first, skip, List.append_assoc _ _ _, hW.append _ _ _ first h, hin⟩
    have hother (found : Bool) (line : List Char) (hin : isIn p 0 line = found) :
        W.Searched p found line := ⟨[], line, 0, rfl, hW.whole line, hin⟩
    constructor
    · intro hin
      rcases Bool.or_eq_true_iff.1 hin with hin | hin
      · exact ⟨_, List.mem_cons_self, hfirst true hin⟩
      · obtain ⟨line, hline, hin⟩ := List.any_eq_true.1 hin
        exact ⟨line, List.mem_cons_of_mem _ hline, hother true line hin⟩
    · intro hin
      rw [Bool.or_eq_false_iff] at hin
      intro line hline
      rcases List.mem_cons.1 hline with rfl | hline
      · exact hfirst false hin.1
      · exact hother false line (Bool.eq_false_iff.2 (List.any_eq_false.1 hin.2 line hline))

/-- A line is kept by finding the pattern inside it, or by holding a part of it. -/
theorem PartLaw.IsKept.keepLine (hW : W.IsKept limits p) (h : W dropped buffer skip) :
    (Progress.keepLine limits p skip buffer).result = some true ∧
        W.FoundInside limits p (dropped ++ buffer) ∨
      (Progress.keepLine limits p skip buffer).HoldsPart W limits p false (dropped ++ buffer) := by
  rw [Progress.keepLine]
  by_cases hlength : buffer.length ≤ limits.length
  · rw [if_pos hlength]
    exact .inr ⟨dropped, buffer, skip, rfl, rfl, h, Nat.le_trans hlength (Nat.le_max_left _ _)⟩
  · rw [if_neg hlength]
    have hlong := Nat.lt_of_not_le hlength
    by_cases hinside : isInside p skip buffer = true
    · rw [if_pos hinside]
      exact .inl ⟨rfl, dropped, buffer, skip, List.prefix_refl _, h, hlong, hinside⟩
    · rw [if_neg hinside]
      refine .inr ⟨_, _, 1, rfl, ?_, hW.keepEnd _ _ _ h hlong (Bool.eq_false_iff.2 hinside), ?_⟩
      · rw [List.append_assoc, take_append_lastOf]
      · rw [length_lastOf]
        omega

/-- What is held of a line: all of it, or an end of a line that is too long, whose first character is
there only as context. -/
def IsEnd (limits : LineLimits) : PartLaw := fun dropped buffer skip =>
  skip = 0 ∧ dropped = [] ∨
    skip = 1 ∧ buffer ≠ [] ∧ limits.length < (dropped ++ buffer).length

theorem IsEnd.append (h : IsEnd limits dropped buffer skip) (text : List Char) :
    IsEnd limits dropped (buffer ++ text) skip := by
  refine h.imp_right fun ⟨hskip, hbuffer, hlong⟩ => ⟨hskip, ?_, ?_⟩
  · exact List.append_ne_nil_of_left_ne_nil hbuffer text
  · rw [← List.append_assoc, List.length_append]
    omega

theorem isEnd_isKept : (IsEnd limits).IsKept limits p where
  whole _ := .inl ⟨rfl, rfl⟩
  append _ _ _ text h := h.append text
  keepEnd dropped buffer skip _ hlong _ := by
    refine .inr ⟨rfl, fun hnil => ?_, ?_⟩
    · have hlength := length_lastOf (limits.overlap + 1) buffer
      rw [hnil, List.length_nil] at hlength
      omega
    · rw [List.append_assoc, take_append_lastOf, List.length_append]
      omega
  held dropped skip h := h.elim And.right fun h => absurd rfl h.2.1

/-- A part that something was dropped before begins with context. -/
theorem IsEnd.skip_le (h : IsEnd limits dropped buffer skip) :
    skip ≤ buffer.length ∧ (dropped = [] ∨ 0 < skip) := by
  rcases h with ⟨rfl, rfl⟩ | ⟨rfl, hbuffer, -⟩
  · exact ⟨Nat.zero_le _, .inl rfl⟩
  · exact ⟨List.length_pos_iff.2 hbuffer, .inr Nat.one_pos⟩

/-! ## 3. A piece of a text -/

/-- After the lines that a piece finishes, the unfinished one is kept. -/
theorem PartLaw.IsKept.keepLine_piece (hW : W.IsKept limits p) (h : W dropped buffer skip)
    (hline : '\n' ∉ dropped ++ buffer) (text : List Char) :
    let kept := Progress.keepLine limits p (if finishedLines (buffer ++ text) = [] then skip else 0)
      (unfinishedLine (buffer ++ text))
    kept.result = some true ∧ W.FoundInside limits p (unfinishedLine (dropped ++ buffer ++ text)) ∨
      kept.HoldsPart W limits p false (unfinishedLine (dropped ++ buffer ++ text)) := by
  have hbuffer : '\n' ∉ buffer := fun hmem => hline (List.mem_append_right _ hmem)
  have hnew : finishedLines (buffer ++ text) = [] ↔ finishedLines text = [] := by
    rw [finishedLines_append_of_not_mem hbuffer, List.modifyHead_eq_nil_iff]
  rw [unfinishedLine_append_of_not_mem hbuffer, unfinishedLine_append_of_not_mem hline]
  -- without a line feed the piece goes on with the line, otherwise a new line begins
  by_cases hnil : finishedLines text = []
  · rw [if_pos (hnew.2 hnil), if_pos hnil, if_pos hnil, List.append_assoc]
    exact hW.keepLine (hW.append _ _ _ _ h)
  · rw [if_neg (mt hnew.1 hnil), if_neg hnil, if_neg hnil]
    exact hW.keepLine (hW.whole _)

/-- A piece finishes lines, in which the pattern is found or not, and goes on with a line. -/
theorem Scanner.HoldsPart.feed {isFresh : Bool} (h : s.HoldsPart W limits p isFresh line)
    (hW : W.IsKept limits p) (hline : '\n' ∉ line) (text : List Char) :
    (s.progress.feed limits text).result = some true ∧ W.FoundIn limits p (line ++ text) ∨
      (s.progress.feed limits text).HoldsPart W limits p false (unfinishedLine (line ++ text)) ∧
        ∀ finished ∈ finishedLines (line ++ text), W.Searched p false finished := by
  obtain ⟨dropped, buffer, skip, rfl, rfl, hpart, -⟩ := h
  have hbuffer : '\n' ∉ buffer := fun hmem => hline (List.mem_append_right _ hmem)
  obtain ⟨hfound, hnone⟩ := PartLaw.searched_of_isInLines hW hpart (finishedLines text)
  rw [← finishedLines_append_of_not_mem hbuffer, ← finishedLines_append_of_not_mem hline]
    at hfound hnone
  rw [feed_line]
  by_cases hin : isInLines p skip (finishedLines (buffer ++ text)) = true
  · rw [if_pos hin]
    exact .inl ⟨rfl, .inl (hfound hin)⟩
  · rw [if_neg hin]
    rcases hW.keepLine_piece hpart hline text with ⟨htrue, hinside⟩ | hholds
    · exact .inl ⟨htrue, .inr ⟨_, mem_splitOn.2 (.inr rfl), hinside⟩⟩
    · exact .inr ⟨hholds, hnone (Bool.eq_false_iff.2 hin)⟩

theorem Scanner.searchesParts_start (hW : W.IsKept limits p) :
    (Scanner.start (.line p)).SearchesParts W limits p [] :=
  .inr ⟨⟨[], [], 0, rfl, rfl, hW.whole [], Nat.zero_le _⟩, fun _ hmem => absurd hmem List.not_mem_nil⟩

/-- As long as there is no answer, a part of the unfinished line is held. -/
theorem Scanner.SearchesParts.holdsPart {seen : List Char} (h : s.SearchesParts W limits p seen)
    (hresult : s.result = none) :
    s.HoldsPart W limits p seen.isEmpty (unfinishedLine seen) ∧
      ∀ line ∈ finishedLines seen, W.Searched p false line :=
  h.resolve_left fun ⟨htrue, _⟩ => nomatch hresult.symm.trans htrue

theorem Scanner.SearchesParts.feed {seen piece : List Char} (h : s.SearchesParts W limits p seen)
    (hW : W.IsKept limits p) (hresult : s.result = none) (hpiece : piece ≠ []) :
    (s.progress.feed limits piece).SearchesParts W limits p (seen ++ piece) := by
  obtain ⟨hholds, hnone⟩ := h.holdsPart hresult
  have hfresh : (seen ++ piece).isEmpty = false :=
    List.isEmpty_eq_false_iff.2 (List.append_ne_nil_of_right_ne_nil seen hpiece)
  rw [SearchesParts, hfresh, unfinishedLine_append seen piece]
  -- the lines that this piece finishes, and then those before it
  rcases hholds.feed hW (lineFeed_not_mem_unfinishedLine seen) piece with
    ⟨htrue, hfound⟩ | ⟨hmore, hfinished⟩
  · refine .inl ⟨htrue, ?_⟩
    rcases hfound with ⟨line, hline, hfound⟩ | ⟨line, hline, hinside⟩
    · refine .inl ⟨line, ?_, hfound⟩
      rw [finishedLines_append]
      exact List.mem_append_right _ hline
    · refine .inr ⟨line, ?_, hinside⟩
      rw [mem_splitOn, finishedLines_append, unfinishedLine_append, List.mem_append]
      exact (mem_splitOn.1 hline).imp_left .inr
  · refine .inr ⟨hmore, fun line hline => ?_⟩
    rw [finishedLines_append] at hline
    exact (List.mem_append.1 hline).elim (hnone line) (hfinished line)

/-! ## 4. A text in pieces -/

/-- What a scanner knows of a text that it has taken in pieces. -/
theorem Scanner.SearchesParts.feedAll (hW : W.IsKept limits p) (pieces : List (List Char)) :
    ((Scanner.start (.line p)).feedAll limits pieces).SearchesParts W limits p pieces.flatten := by
  refine feedAll_induction (P := SearchesParts W limits p) ?_ ?_ pieces (searchesParts_start hW)
  · rintro seen piece s b hresult (⟨htrue, hfound⟩ | ⟨⟨dropped, buffer, skip, rfl, -⟩, -⟩)
    · exact .inl ⟨htrue, hfound.append piece⟩
    · cases hresult
  · exact fun seen piece s hpiece hresult h => h.feed hW hresult hpiece

theorem PartLaw.FoundIn.mem_linesOf (h : W.FoundIn limits p text) :
    ∃ line ∈ linesOf text, W.Searched p true line ∨ W.FoundInside limits p line := by
  rcases h with ⟨line, hline, hfound⟩ | ⟨line, hline, hinside⟩
  · exact ⟨line, Content.mem_linesOf.2 (.inl hline), .inl hfound⟩
  · refine ⟨line, Content.mem_linesOf.2 ?_, .inr hinside⟩
    refine (mem_splitOn.1 hline).imp_right fun hlast => ⟨.inl ?_, hlast⟩
    -- a line inside which something is found is not empty
    obtain ⟨dropped, buffer, skip, ⟨rest, rfl⟩, -, hlong, -⟩ := hinside
    rw [← hlast]
    intro hnil
    rw [List.append_eq_nil_iff, List.append_eq_nil_iff] at hnil
    rw [hnil.1.2] at hlong
    exact absurd hlong (Nat.not_lt_zero _)

/-- If the answer is yes, the pattern has been found in a line of the text, as far as that was held, or
inside a part of one. -/
theorem Scanner.SearchesParts.exists_of_answer {seen : List Char}
    (h : s.SearchesParts W limits p seen) (hanswer : s.answer true = true) :
    ∃ line ∈ linesOf seen, W.Searched p true line ∨ W.FoundInside limits p line := by
  rcases h with ⟨-, hfound⟩ | ⟨⟨dropped, buffer, skip, rfl, hline, hpart, -⟩, -⟩
  · exact hfound.mem_linesOf
  · have hfinish : ((!buffer.isEmpty || seen.isEmpty) && isIn p skip buffer) = true := hanswer
    rw [Bool.and_eq_true, Bool.or_eq_true, Bool.not_eq_true', List.isEmpty_eq_false_iff,
      List.isEmpty_iff] at hfinish
    refine ⟨unfinishedLine seen, mem_linesOf.2 (.inr ⟨hfinish.1.imp_left fun hbuffer => ?_, rfl⟩),
      .inl ⟨dropped, buffer, skip, hline, hpart, hfinish.2⟩⟩
    rw [hline]
    exact List.append_ne_nil_of_right_ne_nil _ hbuffer

/-- If the answer is no, every line of the text has been searched in vain, as far as it was held. -/
theorem Scanner.SearchesParts.searched_of_answer {seen : List Char}
    (h : s.SearchesParts W limits p seen) (hW : W.IsKept limits p)
    (hanswer : s.answer true = false) : ∀ line ∈ linesOf seen, W.Searched p false line := by
  rcases h with ⟨htrue, -⟩ | ⟨⟨dropped, buffer, skip, rfl, hheld, hpart, -⟩, hnone⟩
  · rw [answer_of_result true htrue] at hanswer
    cases hanswer
  · have hfinish : ((!buffer.isEmpty || seen.isEmpty) && isIn p skip buffer) = false := hanswer
    intro line hline
    rcases mem_linesOf.1 hline with hfinished | ⟨hsome, rfl⟩
    · exact hnone line hfinished
    refine ⟨dropped, buffer, skip, hheld, hpart, ?_⟩
    -- something is held of the line, unless the text is empty
    have hheld' : (!buffer.isEmpty || seen.isEmpty) = true := by
      rw [Bool.or_eq_true, Bool.not_eq_true', List.isEmpty_eq_false_iff, List.isEmpty_iff]
      refine hsome.imp_left fun hline => ?_
      rintro rfl
      exact hline (by rw [hheld, hW.held dropped skip hpart]; rfl)
    rwa [hheld', Bool.true_and] at hfinish

/-! ## 5. How much is held -/

/-- Of a line that is too long, an end is held that has room for the overlap behind the character that is
there only as context. -/
structure HasRoom (limits : LineLimits) (dropped buffer : List Char) (skip : Nat) : Prop where
  isEnd : IsEnd limits dropped buffer skip
  room : skip = 0 ∨ limits.overlap < buffer.length

theorem HasRoom.append (h : HasRoom limits dropped buffer skip) (text : List Char) :
    HasRoom limits dropped (buffer ++ text) skip where
  isEnd := h.isEnd.append text
  room := by
    rw [List.length_append]
    exact h.room.imp_right fun hroom => Nat.lt_add_right _ hroom

theorem HasRoom.keepEnd (h : HasRoom limits dropped buffer skip)
    (hlimits : limits.overlap < limits.length) (hlong : limits.length < buffer.length)
    (hinside : isInside p skip buffer = false) :
    HasRoom limits (dropped ++ buffer.take (buffer.length - (limits.overlap + 1)))
      (lastOf (limits.overlap + 1) buffer) 1 where
  isEnd := isEnd_isKept.keepEnd _ _ _ h.isEnd hlong hinside
  room := by
    rw [length_lastOf]
    exact .inr (by omega)

theorem hasRoom_isKept (hlimits : limits.overlap < limits.length) :
    PartLaw.IsKept limits p (HasRoom limits) where
  whole _ := ⟨.inl ⟨rfl, rfl⟩, .inl rfl⟩
  append _ _ _ text h := h.append text
  keepEnd _ _ _ h hlong hinside := h.keepEnd hlimits hlong hinside
  held _ _ h := isEnd_isKept.held (p := p) _ _ h.isEnd

/-- However a text is cut into pieces, a scanner that has no answer yet holds all of the unfinished line,
or an end of it that is longer than the overlap and begins with one character of context.  It never holds
more of the line than may be held. -/
theorem feedAll_line_isBounded (limits : LineLimits) (hlimits : limits.overlap < limits.length)
    (p : Pattern) (pieces : List (List Char))
    (hundecided : ((Scanner.start (.line p)).feedAll limits pieces).result = none) :
    ∃ buffer skip, (Scanner.start (.line p)).feedAll limits pieces =
        ⟨.line p buffer skip pieces.flatten.isEmpty, none⟩ ∧
      '\n' ∉ buffer ∧ buffer.length ≤ limits.length ∧ buffer <:+ unfinishedLine pieces.flatten ∧
      (skip = 0 ∧ buffer = unfinishedLine pieces.flatten ∨
        skip = 1 ∧ buffer ≠ unfinishedLine pieces.flatten ∧ limits.overlap + 1 ≤ buffer.length) := by
  have hsearches := Scanner.SearchesParts.feedAll (hasRoom_isKept (p := p) hlimits) pieces
  obtain ⟨⟨dropped, buffer, skip, hscanner, hline, hpart, hlength⟩, -⟩ :=
    hsearches.holdsPart hundecided
  have hbounded : buffer.length ≤ limits.length := by omega
  have hsuffix : buffer <:+ unfinishedLine pieces.flatten := ⟨dropped, hline.symm⟩
  have hfeed : '\n' ∉ buffer :=
    fun hmem => lineFeed_not_mem_unfinishedLine pieces.flatten (hsuffix.subset hmem)
  refine ⟨buffer, skip, hscanner, hfeed, hbounded, hsuffix, ?_⟩
  rcases hpart.isEnd with ⟨hskip, hdropped⟩ | ⟨hskip, -, hlong⟩
  · rw [hdropped, List.nil_append] at hline
    exact .inl ⟨hskip, hline.symm⟩
  · -- what is cut is longer than what may be held
    have hproper : buffer ≠ unfinishedLine pieces.flatten := by
      intro hall
      rw [← hline, ← hall] at hlong
      omega
    have hroom := hpart.room.resolve_left (by omega)
    exact .inr ⟨hskip, hproper, hroom⟩

/-- The limits `4` and `2`, a line that is finished and one of seven characters: it is cut when six of them
have come, and goes on. -/
theorem feedAll_line_isBounded_cut :
    let p : Pattern := ⟨"z", false, .test (.set false [.code 122] .exact false)⟩
    let s := (Scanner.start (.line p)).feedAll ⟨4, 2⟩
      [['x', '\n', 'a', 'b'], ['c', 'd', 'e', 'f'], ['g']]
    s.result = none ∧ s.progress = .line p ['d', 'e', 'f', 'g'] 1 false ∧
      ['d', 'e', 'f', 'g'].length ≤ 4 ∧
      ['d', 'e', 'f', 'g'] <:+ unfinishedLine ['x', '\n', 'a', 'b', 'c', 'd', 'e', 'f', 'g'] ∧
      ['d', 'e', 'f', 'g'] ≠ unfinishedLine ['x', '\n', 'a', 'b', 'c', 'd', 'e', 'f', 'g'] ∧
      2 + 1 ≤ ['d', 'e', 'f', 'g'].length := by
  intro p s
  have hundecided : s.result = none := by decide
  have hprogress : s.progress = .line p ['d', 'e', 'f', 'g'] 1 false := by decide
  obtain ⟨buffer, skip, hs, -, hbounded, hsuffix, hextent⟩ :=
    feedAll_line_isBounded ⟨4, 2⟩ (by decide) p _ hundecided
  have hheld := hprogress.symm.trans (congrArg Scanner.progress hs)
  injection hheld with _ hbuffer hskip
  subst hbuffer hskip
  obtain ⟨-, hproper, hroom⟩ := hextent.resolve_left fun h => Nat.one_ne_zero h.1
  exact ⟨hundecided, hprogress, hbounded, hsuffix, hproper, hroom⟩

end FileQuery.Content
