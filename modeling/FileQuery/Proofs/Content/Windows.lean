import FileQuery.Proofs.Content.Parts
import FileQuery.Proofs.Pattern.Literal

/-!
# Searching long lines

Of a line that is too long to be held, a scanner for a regular expression keeps the end.  A text without
a line feed that is no longer than what two searched parts of a line have in common is still found
wherever it occurs: it is found in the same contents by a regular expression and by a plain search.
-/

namespace FileQuery.Content

open Pattern (IsLiteral)

variable {limits : LineLimits} {overlap : Nat} {p : Pattern} {s : Scanner}
variable {needle dropped buffer text : List Char} {skip : Nat}

/-! ## 1. Occurrences in lines -/

/-- A text without a line feed occurs before or after one. -/
theorem infix_append_lineFeed_iff (h : '\n' ∉ needle) (before rest : List Char) :
    needle <:+: before ++ '\n' :: rest ↔ needle <:+: before ∨ needle <:+: rest := by
  constructor
  · rintro ⟨a, b, hab⟩
    rcases occurrence_append hab with ⟨c, hc, -⟩ | hbeyond
    · exact .inl ⟨a, c, hc.symm⟩
    · by_cases hlength : a.length ≤ before.length
      · -- the line feed would lie in the text
        rw [List.append_assoc] at hab
        obtain ⟨c, hc, hrest⟩ := exists_append_of_length_le hab.symm hlength
        have hlengths := congrArg List.length hc
        rw [List.length_append] at hlengths
        have hfront : c ++ ['\n'] <+: needle := by
          refine List.prefix_of_prefix_length_le ⟨rest, ?_⟩ ⟨b, hrest⟩ ?_
          · rw [List.append_assoc]
            rfl
          · rw [List.length_append, List.length_singleton]
            omega
        exact absurd (hfront.subset (List.mem_append_right _ List.mem_cons_self)) h
      · have hdropped : (before ++ ['\n']).length ≤ a.length := by
          rw [List.length_append, List.length_singleton]
          omega
        rw [List.append_cons before] at hab
        obtain ⟨c, -, hrest⟩ := exists_occurrence_of_length_le hab.symm hdropped
        exact .inr ⟨c, b, hrest.symm⟩
  · rintro (hbefore | hrest)
    · exact hbefore.trans (List.prefix_append _ _).isInfix
    · refine hrest.trans (List.IsSuffix.isInfix ?_)
      rw [List.append_cons]
      exact List.suffix_append _ _

theorem infix_iff_splitOn (h : '\n' ∉ needle) (text : List Char) :
    needle <:+: text ↔ ∃ line ∈ text.splitOn '\n', needle <:+: line := by
  rcases lineFeed_cases text with hnone | ⟨before, rest, htext, hrest⟩
  · rw [List.splitOn_eq_singleton hnone]
    exact ⟨fun hoccurs => ⟨text, List.mem_cons_self, hoccurs⟩,
      fun ⟨line, hline, hoccurs⟩ => List.mem_singleton.1 hline ▸ hoccurs⟩
  · rw [htext, infix_append_lineFeed_iff h, infix_iff_splitOn h before,
      List.splitOn_append_cons_self, List.splitOn_eq_singleton hrest]
    simp only [List.mem_append, List.mem_singleton, or_and_right, exists_or, exists_eq_left]
termination_by text.length
decreasing_by
  rw [htext, List.length_append, List.length_cons]
  omega

/-- A text without a line feed occurs in a finished line or in the unfinished one. -/
theorem infix_iff_lines (h : '\n' ∉ needle) (text : List Char) : needle <:+: text ↔
    (∃ line ∈ finishedLines text, needle <:+: line) ∨ needle <:+: unfinishedLine text := by
  rw [infix_iff_splitOn h, splitOn_eq_append]
  simp only [List.mem_append, List.mem_singleton, or_and_right, exists_or, exists_eq_left]

/-! ## 2. Windows -/

/-- What is held of a line: all of it, or an end of it, whose first character is there only as context.
A text that occurs in the line does so behind what is not looked at any more. -/
structure Window (overlap : Nat) (needle dropped buffer : List Char) (skip : Nat) : Prop where
  extent : skip = 0 ∧ dropped = [] ∨ skip = 1 ∧ overlap + 1 ≤ buffer.length
  begins : ∀ a b, dropped ++ buffer = a ++ needle ++ b → dropped.length + skip ≤ a.length

namespace Window

/-- A whole line. -/
theorem whole (line : List Char) : Window overlap needle [] line 0 :=
  ⟨.inl ⟨rfl, rfl⟩, fun a _ _ => Nat.zero_le a.length⟩

/-- More of the line may come. -/
theorem append (h : Window overlap needle dropped buffer skip) (hneedle : needle.length ≤ overlap)
    (text : List Char) : Window overlap needle dropped (buffer ++ text) skip where
  extent := by
    rw [List.length_append]
    exact h.extent.imp_right fun ⟨hskip, hlength⟩ => ⟨hskip, by omega⟩
  begins a b hab := by
    rw [← List.append_assoc] at hab
    rcases occurrence_append hab.symm with ⟨c, hc, -⟩ | hbeyond
    · exact h.begins a c hc
    · -- an occurrence that is not over yet has begun in the part that is kept for it
      rw [List.length_append] at hbeyond
      rcases h.extent with ⟨rfl, rfl⟩ | ⟨rfl, hlength⟩
      · exact Nat.zero_le a.length
      · omega

/-- An occurrence in the line is one in the part that is looked at. -/
theorem exists_drop (h : Window overlap needle dropped buffer skip) {a b : List Char}
    (hab : dropped ++ buffer = a ++ needle ++ b) :
    ∃ c, buffer.drop skip = c ++ needle ++ b := by
  have hlength : (dropped ++ buffer.take skip).length ≤ a.length := by
    have hbegins := h.begins a b hab
    rw [List.length_append, List.length_take]
    omega
  rw [← List.take_append_drop skip buffer, ← List.append_assoc] at hab
  obtain ⟨c, -, hdrop⟩ := exists_occurrence_of_length_le hab hlength
  exact ⟨c, hdrop⟩

theorem infix_iff (h : Window overlap needle dropped buffer skip) :
    needle <:+: dropped ++ buffer ↔ needle <:+: buffer.drop skip := by
  constructor
  · rintro ⟨a, b, hab⟩
    obtain ⟨c, hdrop⟩ := h.exists_drop hab.symm
    exact ⟨c, b, hdrop.symm⟩
  · intro hoccurs
    exact hoccurs.trans ((List.drop_suffix _ _).isInfix.trans (List.suffix_append _ _).isInfix)

/-- Of a line in which the text does not occur, or only at its very end, the end can be kept. -/
theorem keepEnd (h : Window overlap needle dropped buffer skip) (hneedle : needle.length ≤ overlap)
    (hlong : overlap < buffer.length)
    (hinside : ∀ a b, buffer.drop skip = a ++ needle ++ b → b = []) :
    Window overlap needle (dropped ++ buffer.take (buffer.length - (overlap + 1)))
      (lastOf (overlap + 1) buffer) 1 where
  extent := by
    rw [length_lastOf]
    exact .inr ⟨rfl, by omega⟩
  begins a b hab := by
    rw [List.append_assoc, take_append_lastOf] at hab
    obtain ⟨c, hdrop⟩ := h.exists_drop hab
    -- an occurrence can only stand at the very end, and what is kept is longer than the text
    have hb := hinside c b hdrop
    have hlength := congrArg List.length hab
    rw [hb, List.append_nil, List.length_append, List.length_append] at hlength
    rw [List.length_append, List.length_take]
    omega

end Window

/-! ## 3. Looking through windows -/

theorem isIn_iff (hp : IsLiteral p needle) (skip : Nat) (line : List Char) :
    isIn p skip line = true ↔ needle <:+: line.drop skip := hp.isSome_iff skip line

theorem isInside_iff (hp : IsLiteral p needle) (skip : Nat) (line : List Char) :
    isInside p skip line = true ↔ ∃ a b, line.drop skip = a ++ needle ++ b ∧ b ≠ [] := by
  rw [isInside_iff_search, ← hp.after_iff]

/-- Windows are kept as lines go on and are cut. -/
theorem window_isKept (hp : IsLiteral p needle) (hlimits : limits.overlap < limits.length)
    (hneedle : needle.length ≤ limits.overlap) :
    PartLaw.IsKept limits p (Window limits.overlap needle) where
  whole := .whole
  append _ _ _ text h := h.append hneedle text
  keepEnd dropped buffer skip h hlong hinside := by
    refine h.keepEnd hneedle (by omega) fun a b hab => ?_
    by_contra hb
    rw [(isInside_iff hp skip buffer).2 ⟨a, b, hab, hb⟩] at hinside
    cases hinside
  held _ _ h := h.extent.elim And.right fun h => absurd h.2 (Nat.not_succ_le_zero _)

/-- A line has been searched with the right answer. -/
theorem infix_iff_of_searched (hp : IsLiteral p needle) {found : Bool} {line : List Char}
    (h : PartLaw.Searched (Window overlap needle) p found line) :
    needle <:+: line ↔ found = true := by
  obtain ⟨dropped, buffer, skip, rfl, hwindow, rfl⟩ := h
  rw [hwindow.infix_iff, isIn_iff hp]

theorem infix_of_foundInside (hp : IsLiteral p needle) {line : List Char}
    (h : PartLaw.FoundInside (Window overlap needle) limits p line) :
    limits.length < line.length ∧ needle <:+: line := by
  obtain ⟨dropped, buffer, skip, ⟨rest, rfl⟩, hwindow, hlong, hinside⟩ := h
  obtain ⟨a, b, hab, -⟩ := (isInside_iff hp skip buffer).1 hinside
  refine ⟨?_, (hwindow.infix_iff.2 ⟨a, b, hab.symm⟩).trans (List.prefix_append _ _).isInfix⟩
  rw [List.length_append, List.length_append]
  omega

/-- A window of a line is held, and nothing has been found. -/
def Scanner.HoldsWindow (limits : LineLimits) (p : Pattern) (needle line : List Char) (s : Scanner) :
    Prop :=
  ∃ dropped buffer skip isFresh, s = ⟨.line p buffer skip isFresh, none⟩ ∧
    line = dropped ++ buffer ∧ Window limits.overlap needle dropped buffer skip

/-! ## 4. Looking through a text -/

/-- What a scanner knows of lines of any length: the text has occurred, or it is in no finished line and
a window of the unfinished one is held. -/
def Scanner.SearchesWindows (limits : LineLimits) (p : Pattern) (needle seen : List Char)
    (s : Scanner) : Prop :=
  s.result = some true ∧ needle <:+: seen ∨
    s.HoldsWindow limits p needle (unfinishedLine seen) ∧
      ¬ ∃ line ∈ finishedLines seen, needle <:+: line

theorem Scanner.SearchesWindows.feedAll (hp : IsLiteral p needle)
    (hlimits : limits.overlap < limits.length) (hneedle : needle.length ≤ limits.overlap)
    (hfeed : '\n' ∉ needle) (pieces : List (List Char)) :
    ((Scanner.start (.line p)).feedAll limits pieces).SearchesWindows limits p needle
      pieces.flatten := by
  rcases SearchesParts.feedAll (window_isKept hp hlimits hneedle) pieces with
    ⟨htrue, ⟨line, hline, hfound⟩ | ⟨line, hline, hinside⟩⟩ | ⟨⟨dropped, buffer, skip, hpart⟩, hnone⟩
  · exact .inl ⟨htrue, (infix_iff_lines hfeed _).2
      (.inl ⟨line, hline, (infix_iff_of_searched hp hfound).2 rfl⟩)⟩
  · exact .inl ⟨htrue, (infix_iff_splitOn hfeed _).2
      ⟨line, hline, (infix_of_foundInside hp hinside).2⟩⟩
  · refine .inr ⟨⟨dropped, buffer, skip, _, hpart.1, hpart.2.1, hpart.2.2.1⟩, ?_⟩
    rintro ⟨line, hline, hoccurs⟩
    exact Bool.false_ne_true ((infix_iff_of_searched hp (hnone line hline)).1 hoccurs)

theorem Scanner.SearchesWindows.answer_iff {seen : List Char}
    (h : s.SearchesWindows limits p needle seen) (hp : IsLiteral p needle) (hpos : needle ≠ [])
    (hfeed : '\n' ∉ needle) : s.answer true = true ↔ needle <:+: seen := by
  rcases h with ⟨htrue, hoccurs⟩ | ⟨⟨dropped, buffer, skip, isFresh, rfl, hline, hwindow⟩, hnone⟩
  · rw [answer_of_result true htrue]
    exact iff_of_true rfl hoccurs
  · have hin : isIn p skip buffer = true ↔ needle <:+: seen := by
      rw [isIn_iff hp, ← hwindow.infix_iff, ← hline, infix_iff_lines hfeed seen,
        or_iff_right hnone]
    show ((!buffer.isEmpty || isFresh) && isIn p skip buffer) = true ↔ needle <:+: seen
    rw [Bool.and_eq_true, hin, and_iff_right_iff_imp]
    intro hoccurs
    -- something is held, because the text is found in it
    have hbuffer : buffer ≠ [] := by
      rintro rfl
      rw [← hin, isIn_iff hp, List.drop_nil, List.infix_nil] at hoccurs
      exact hpos hoccurs
    rw [List.isEmpty_eq_false_iff.2 hbuffer]
    rfl

/-- A text without a line feed that is no longer than the overlap is found by the regular expression for
it wherever it occurs, however long the lines are and however the bytes are cut. -/
theorem holds_escape_eq_contains (stack : Pattern.Stack) (limits : LineLimits)
    (hlimits : limits.overlap < limits.length) (needle : String) (hfeed : '\n' ∉ needle.toList)
    (hpos : 1 ≤ needle.toList.length)
    (hneedle : needle.toList.length ≤ limits.overlap) {text : List Char}
    {chunks : List (List UInt8)} (hchunks : chunks.flatten = Text.encode text) :
    ∃ m, Matcher.compile stack .matching (Pattern.escape needle) = .ok m ∧
      m.holds limits chunks = (Matcher.contains needle).holds limits chunks := by
  obtain ⟨p, hcompile, hp⟩ := Pattern.exists_ofRegex_escape stack needle
  refine ⟨.line p, by rw [Matcher.compile, hcompile]; rfl, ?_⟩
  have hnil : needle.toList ≠ [] := List.length_pos_iff.1 hpos
  have hempty : needle ≠ "" := mt String.toList_eq_nil_iff.2 hnil
  obtain ⟨pieces, rfl, hholds⟩ := exists_pieces_encode limits hchunks
  have hlooks := (Scanner.looksFor_start hempty).feedAll limits pieces
  have hsearches := Scanner.SearchesWindows.feedAll hp hlimits hneedle hfeed pieces
  rw [Bool.eq_iff_iff, hholds, hholds, hsearches.answer_iff hp hnil hfeed, hlooks.answer_iff,
    List.nil_append]

/-- A line of eight characters, of which four are held; the occurrence is cut by a chunk. -/
theorem holds_escape_eq_contains_cut : ∃ m,
    Matcher.compile (.ofDepth 9) .matching (Pattern.escape ".é") = .ok m ∧
      m.holds ⟨4, 2⟩ [[0x61, 0x61, 0x61, 0x61, 0x61, 0x2e], [0xc3], [0xa9, 0x61]] = true := by
  have hchunks : [[0x61, 0x61, 0x61, 0x61, 0x61, 0x2e], [0xc3], [0xa9, 0x61]].flatten =
      Text.encode ['a', 'a', 'a', 'a', 'a', '.', 'é', 'a'] := by decide
  obtain ⟨m, hm, hholds⟩ := holds_escape_eq_contains (.ofDepth 9) ⟨4, 2⟩ (by decide) ".é" (by decide)
    (by decide) (by decide) hchunks
  exact ⟨m, hm, hholds.trans (by decide)⟩

end FileQuery.Content
