import FileQuery.Proofs.Content.Streaming
import Mathlib.Data.List.Induction

/-!
# Searching line by line

A scanner for a regular expression holds the unfinished line, and searches a line when it is finished.
If no line is too long to be held, a pattern is found exactly if it is found in one of the lines of the
text, however the bytes are cut into chunks.
-/

namespace FileQuery.Content

variable {limits : LineLimits} {p : Pattern} {s : Scanner} {text rest : List Char}

/-! ## 1. The lines of a text -/

theorem splitFrom_eq_splitOn (done : List (List Char)) (line text : List Char) :
    splitFrom done line text =
      done.reverse ++ (text.splitOn '\n').modifyHead (line.reverse ++ ·) := by
  induction text generalizing done line with
  | nil => rw [splitFrom, List.reverse_cons, List.splitOn_nil, List.modifyHead_cons,
      List.append_nil]
  | cons c rest ih =>
    rw [splitFrom, List.splitOn_cons_eq_if_modifyHead]
    by_cases hc : (c == '\n') = true
    · rw [if_pos hc, if_pos hc, ih, List.modifyHead_cons, List.reverse_cons, List.append_assoc,
        List.append_nil]
      exact congrArg (done.reverse ++ line.reverse :: ·) (congrFun List.modifyHead_id _)
    · rw [if_neg hc, if_neg hc, ih, List.modifyHead_modifyHead, List.reverse_cons]
      congr 2
      funext line'
      exact List.append_assoc _ _ _

theorem splitLines_eq_splitOn (text : List Char) : splitLines text = text.splitOn '\n' := by
  rw [splitLines, splitFrom_eq_splitOn]
  exact congrFun List.modifyHead_id _

def finishedLines (text : List Char) : List (List Char) := (text.splitOn '\n').dropLast

def unfinishedLine (text : List Char) : List Char := (text.splitOn '\n').getLast?.getD []

def linesOf (text : List Char) : List (List Char) :=
  if text.getLast? = some '\n' then (text.splitOn '\n').dropLast else text.splitOn '\n'

/-- A text has no line feed, or a last one. -/
theorem lineFeed_cases (text : List Char) :
    '\n' ∉ text ∨ ∃ before rest, text = before ++ '\n' :: rest ∧ '\n' ∉ rest := by
  induction text using List.reverseRecOn with
  | nil => exact .inl List.not_mem_nil
  | append_singleton text c ih =>
    by_cases hc : c = '\n'
    · exact .inr ⟨text, [], by rw [hc], List.not_mem_nil⟩
    · have hc' : '\n' ∉ [c] := fun h => hc (List.mem_singleton.1 h).symm
      rcases ih with hnone | ⟨before, rest, rfl, hrest⟩
      · exact .inl fun h => (List.mem_append.1 h).elim hnone hc'
      · refine .inr ⟨before, rest ++ [c], by rw [List.append_assoc]; rfl, fun h => ?_⟩
        exact (List.mem_append.1 h).elim hrest hc'

theorem splitOn_eq_append (text : List Char) :
    text.splitOn '\n' = finishedLines text ++ [unfinishedLine text] := by
  rw [finishedLines, unfinishedLine, List.getLast?_eq_some_getLast (List.splitOn_ne_nil _ _)]
  exact (List.dropLast_append_getLast _).symm

theorem mem_splitOn {line : List Char} : line ∈ text.splitOn '\n' ↔
    line ∈ finishedLines text ∨ line = unfinishedLine text := by
  rw [splitOn_eq_append, List.mem_append, List.mem_singleton]

theorem finishedLines_of_not_mem (h : '\n' ∉ text) : finishedLines text = [] := by
  rw [finishedLines, List.splitOn_eq_singleton h]
  rfl

theorem unfinishedLine_of_not_mem (h : '\n' ∉ text) : unfinishedLine text = text := by
  rw [unfinishedLine, List.splitOn_eq_singleton h]
  rfl

theorem finishedLines_append_cons (before rest : List Char) :
    finishedLines (before ++ '\n' :: rest) = before.splitOn '\n' ++ finishedLines rest := by
  rw [finishedLines, List.splitOn_append_cons_self,
    List.dropLast_append_of_ne_nil (List.splitOn_ne_nil _ _)]
  rfl

theorem unfinishedLine_append_cons (before rest : List Char) :
    unfinishedLine (before ++ '\n' :: rest) = unfinishedLine rest := by
  rw [unfinishedLine, List.splitOn_append_cons_self,
    List.getLast?_append_of_ne_nil _ (List.splitOn_ne_nil _ _)]
  rfl

/-- What follows a text finishes further lines, the first of which begins with the unfinished one. -/
theorem finishedLines_append (text more : List Char) :
    finishedLines (text ++ more) =
      finishedLines text ++ finishedLines (unfinishedLine text ++ more) := by
  rcases lineFeed_cases text with hnone | ⟨before, rest, rfl, hrest⟩
  · rw [finishedLines_of_not_mem hnone, unfinishedLine_of_not_mem hnone, List.nil_append]
  · rw [List.append_assoc, List.cons_append, finishedLines_append_cons, finishedLines_append_cons,
      unfinishedLine_append_cons, finishedLines_of_not_mem hrest, unfinishedLine_of_not_mem hrest,
      List.append_nil]

theorem unfinishedLine_append (text more : List Char) :
    unfinishedLine (text ++ more) = unfinishedLine (unfinishedLine text ++ more) := by
  rcases lineFeed_cases text with hnone | ⟨before, rest, rfl, hrest⟩
  · rw [unfinishedLine_of_not_mem hnone]
  · rw [List.append_assoc, List.cons_append, unfinishedLine_append_cons,
      unfinishedLine_append_cons, unfinishedLine_of_not_mem hrest]

theorem lineFeed_not_mem_unfinishedLine (text : List Char) : '\n' ∉ unfinishedLine text := by
  rcases lineFeed_cases text with hnone | ⟨before, rest, rfl, hrest⟩
  · rw [unfinishedLine_of_not_mem hnone]
    exact hnone
  · rw [unfinishedLine_append_cons, unfinishedLine_of_not_mem hrest]
    exact hrest

/-- Characters before a text come before its first line. -/
theorem splitOn_append_of_not_mem (h : '\n' ∉ rest) (text : List Char) :
    (rest ++ text).splitOn '\n' = (text.splitOn '\n').modifyHead (rest ++ ·) := by
  induction rest with
  | nil => exact (congrFun List.modifyHead_id _).symm
  | cons c rest ih =>
    have hc : ¬ (c == '\n') = true := fun heq => h (List.mem_cons.2 (.inl (eq_of_beq heq).symm))
    have hrest : '\n' ∉ rest := fun hmem => h (List.mem_cons_of_mem _ hmem)
    rw [List.cons_append, List.splitOn_cons_eq_if_modifyHead, if_neg hc, ih hrest,
      List.modifyHead_modifyHead]
    rfl

/-- Characters before a text without a line feed come before the first line that it finishes. -/
theorem finishedLines_append_of_not_mem (h : '\n' ∉ rest) (text : List Char) :
    finishedLines (rest ++ text) = (finishedLines text).modifyHead (rest ++ ·) := by
  rw [finishedLines, finishedLines, splitOn_append_of_not_mem h]
  rcases text.splitOn '\n' with _ | ⟨line, _ | ⟨next, lines⟩⟩ <;> rfl

/-- They come before its unfinished line if it finishes none. -/
theorem unfinishedLine_append_of_not_mem (h : '\n' ∉ rest) (text : List Char) :
    unfinishedLine (rest ++ text) =
      if finishedLines text = [] then rest ++ unfinishedLine text else unfinishedLine text := by
  have hsome := List.splitOn_ne_nil '\n' text
  rw [unfinishedLine, unfinishedLine, finishedLines, splitOn_append_of_not_mem h]
  rcases hlines : text.splitOn '\n' with _ | ⟨line, _ | ⟨next, lines⟩⟩
  · exact absurd hlines hsome
  · rfl
  · rfl

/-- A line of a text is the beginning of a line of a longer one. -/
theorem exists_mem_splitOn_append {line : List Char} (h : line ∈ text.splitOn '\n')
    (more : List Char) : ∃ longer ∈ (text ++ more).splitOn '\n', line <+: longer := by
  have hlines : (text ++ more).splitOn '\n' = finishedLines text ++
      (more.splitOn '\n').modifyHead (unfinishedLine text ++ ·) := by
    rw [splitOn_eq_append, finishedLines_append, unfinishedLine_append, List.append_assoc,
      ← splitOn_eq_append, splitOn_append_of_not_mem (lineFeed_not_mem_unfinishedLine text)]
  rw [splitOn_eq_append, List.mem_append, List.mem_singleton] at h
  rw [hlines]
  rcases h with hfinished | rfl
  · exact ⟨line, List.mem_append_left _ hfinished, List.prefix_refl _⟩
  · -- the unfinished line goes on with the first line of the rest
    obtain ⟨first, others, hmore⟩ := List.exists_cons_of_ne_nil (List.splitOn_ne_nil '\n' more)
    rw [hmore, List.modifyHead_cons]
    exact ⟨_, List.mem_append_right _ List.mem_cons_self, List.prefix_append _ _⟩

theorem getLast?_eq_lineFeed_iff (text : List Char) :
    text.getLast? = some '\n' ↔ text ≠ [] ∧ unfinishedLine text = [] := by
  rcases lineFeed_cases text with hnone | ⟨before, rest, rfl, hrest⟩
  · rw [unfinishedLine_of_not_mem hnone]
    exact iff_of_false (fun h => hnone (List.mem_of_getLast? h)) fun h => h.1 h.2
  · rw [unfinishedLine_append_cons, unfinishedLine_of_not_mem hrest,
      and_iff_right (List.append_ne_nil_of_right_ne_nil _ (List.cons_ne_nil _ _))]
    by_cases hnil : rest = []
    · rw [hnil, List.getLast?_append_of_ne_nil _ (List.cons_ne_nil _ _)]
      exact iff_of_true rfl rfl
    · rw [List.append_cons, List.getLast?_append_of_ne_nil _ hnil]
      exact iff_of_false (fun h => hrest (List.mem_of_getLast? h)) hnil

/-- The lines of a text are those that are finished, and the unfinished one if there is something in it
or nothing in the text. -/
theorem mem_linesOf {line : List Char} : line ∈ linesOf text ↔
    line ∈ finishedLines text ∨
      (unfinishedLine text ≠ [] ∨ text = []) ∧ line = unfinishedLine text := by
  rw [linesOf]
  by_cases hlast : text.getLast? = some '\n'
  · obtain ⟨htext, hunfinished⟩ := (getLast?_eq_lineFeed_iff text).1 hlast
    rw [if_pos hlast]
    exact (or_iff_left fun h => h.1.elim (absurd hunfinished) htext).symm
  · have hsome : unfinishedLine text ≠ [] ∨ text = [] := by
      rw [getLast?_eq_lineFeed_iff] at hlast
      by_cases htext : text = []
      · exact .inr htext
      · exact .inl fun h => hlast ⟨htext, h⟩
    rw [if_neg hlast, splitOn_eq_append, List.mem_append, List.mem_singleton, and_iff_right hsome]

theorem lineFeed_not_mem_of_mem_splitOn {line : List Char} (h : line ∈ text.splitOn '\n') :
    '\n' ∉ line := by
  induction text generalizing line with
  | nil =>
    rw [List.splitOn_nil, List.mem_singleton] at h
    rw [h]
    exact List.not_mem_nil
  | cons c text ih =>
    rw [List.splitOn_cons_eq_if_modifyHead] at h
    obtain ⟨first, others, hlines⟩ := List.exists_cons_of_ne_nil (List.splitOn_ne_nil '\n' text)
    rw [hlines] at h ih
    -- a line feed ends a line, and any other character joins the first one
    split at h
    · rcases List.mem_cons.1 h with rfl | h
      · exact List.not_mem_nil
      · exact ih h
    · next hc =>
      rw [List.modifyHead_cons] at h
      rcases List.mem_cons.1 h with rfl | h
      · rw [List.mem_cons, not_or]
        exact ⟨fun heq => hc (beq_iff_eq.2 heq.symm), ih List.mem_cons_self⟩
      · exact ih (List.mem_cons_of_mem _ h)

theorem lineFeed_not_mem_of_mem_linesOf {line : List Char} (h : line ∈ linesOf text) :
    '\n' ∉ line :=
  lineFeed_not_mem_of_mem_splitOn (mem_splitOn.2 ((mem_linesOf.1 h).imp_right And.right))

theorem linesOf_of_not_mem (h : '\n' ∉ text) : linesOf text = [text] := by
  rw [linesOf, if_neg fun hlast => h (List.mem_of_getLast? hlast), List.splitOn_eq_singleton h]

/-! ## 2. Taking a piece -/

theorem isInLines_zero (lines : List (List Char)) :
    isInLines p 0 lines = lines.any (isIn p 0) := by
  cases lines <;> rfl

/-- A piece is taken by searching the lines that it finishes, and then keeping the unfinished one. -/
theorem feed_line (limits : LineLimits) (p : Pattern) (buffer : List Char) (skip : Nat)
    (isFresh : Bool) (text : List Char) :
    (Progress.line p buffer skip isFresh).feed limits text =
      if isInLines p skip (finishedLines (buffer ++ text)) then
        ⟨.line p buffer skip false, some true⟩
      else Progress.keepLine limits p (if finishedLines (buffer ++ text) = [] then skip else 0)
        (unfinishedLine (buffer ++ text)) := by
  rw [Progress.feed, splitLines_eq_splitOn, ← finishedLines, ← unfinishedLine]
  cases finishedLines (buffer ++ text) with
  | nil => rfl
  | cons line lines => rfl

/-- Inside an unfinished line there is a match that does not reach its end. -/
theorem isInside_iff_search {skip : Nat} {line : List Char} : isInside p skip line = true ↔
    ∃ m, p.search skip line = some m ∧ m.stop.after ≠ [] := by
  rw [isInside]
  cases p.search skip line with
  | none => exact iff_of_false Bool.false_ne_true fun ⟨m, hm, _⟩ => nomatch hm
  | some m =>
    dsimp only
    rw [Bool.not_eq_true', List.isEmpty_eq_false_iff]
    exact ⟨fun h => ⟨m, rfl, h⟩, fun ⟨_, hm, h⟩ => Option.some.inj hm ▸ h⟩

theorem keepLine_of_length_le (skip : Nat) (h : text.length ≤ limits.length) :
    Progress.keepLine limits p skip text = ⟨.line p text skip false, none⟩ := if_pos h

/-- A first piece without a line feed is kept as the unfinished line. -/
theorem feed_start_line (limits : LineLimits) (p : Pattern) (htext : '\n' ∉ text)
    (hsome : text ≠ []) :
    (Scanner.start (.line p)).feed limits text = Progress.keepLine limits p 0 text := by
  have hempty : ¬ ((Scanner.start (.line p)).isDecided || text.isEmpty) = true := by
    show ¬ (false || text.isEmpty) = true
    rw [Bool.false_or, List.isEmpty_iff]
    exact hsome
  rw [Scanner.feed, if_neg hempty]
  show (Progress.line p [] 0 true).feed limits text = _
  rw [feed_line, List.nil_append, finishedLines_of_not_mem htext, unfinishedLine_of_not_mem htext,
    isInLines, if_neg Bool.false_ne_true, if_pos rfl]

/-! ## 3. Lines that can be held -/

/-- No line of a text is too long to be held. -/
def Fits (limits : LineLimits) (text : List Char) : Prop :=
  ∀ line ∈ text.splitOn '\n', line.length ≤ limits.length

theorem Fits.unfinishedLine (h : Fits limits text) :
    (unfinishedLine text).length ≤ limits.length := by
  apply h
  rw [splitOn_eq_append]
  exact List.mem_append_right _ List.mem_cons_self

theorem Fits.of_append {more : List Char} (h : Fits limits (text ++ more)) : Fits limits text := by
  intro line hline
  obtain ⟨longer, hlonger, hbegin⟩ := exists_mem_splitOn_append hline more
  exact Nat.le_trans hbegin.length_le (h longer hlonger)

/-- What a scanner knows of lines that fit: the pattern has been found in a finished one, or it is in
none and the unfinished one is held. -/
def Scanner.SearchesLines (p : Pattern) (seen : List Char) (s : Scanner) : Prop :=
  s.result = some true ∧ (∃ line ∈ finishedLines seen, isIn p 0 line = true) ∨
    s = ⟨.line p (unfinishedLine seen) 0 seen.isEmpty, none⟩ ∧
      ∀ line ∈ finishedLines seen, ¬ isIn p 0 line = true

theorem Scanner.searchesLines_start (p : Pattern) :
    (Scanner.start (.line p)).SearchesLines p [] :=
  .inr ⟨rfl, fun _ h => absurd h List.not_mem_nil⟩

theorem Scanner.SearchesLines.feed {seen piece : List Char} (h : s.SearchesLines p seen)
    (hresult : s.result = none) (hpiece : piece ≠ []) (hfits : Fits limits (seen ++ piece)) :
    (s.progress.feed limits piece).SearchesLines p (seen ++ piece) := by
  rcases h with ⟨htrue, -⟩ | ⟨rfl, hnone⟩
  · rw [hresult] at htrue
    cases htrue
  · -- what fits is held in full, so each line is searched from its start
    rw [feed_line, isInLines_zero, ite_self, ← unfinishedLine_append,
      keepLine_of_length_le 0 hfits.unfinishedLine]
    have hfinished := finishedLines_append seen piece
    by_cases hany : (finishedLines (unfinishedLine seen ++ piece)).any (isIn p 0) = true
    · obtain ⟨line, hline, hin⟩ := List.any_eq_true.1 hany
      rw [if_pos hany]
      exact .inl ⟨rfl, line, hfinished ▸ List.mem_append_right _ hline, hin⟩
    · rw [if_neg hany]
      refine .inr ⟨?_, fun line hline hin => ?_⟩
      · rw [List.isEmpty_eq_false_iff.2 (List.append_ne_nil_of_right_ne_nil seen hpiece)]
      · rw [hfinished] at hline
        rcases List.mem_append.1 hline with hbefore | hnew
        · exact hnone line hbefore hin
        · exact hany (List.any_eq_true.2 ⟨line, hnew, hin⟩)

theorem Scanner.SearchesLines.feedAll {pieces : List (List Char)}
    (hfits : Fits limits pieces.flatten) :
    ((Scanner.start (.line p)).feedAll limits pieces).SearchesLines p pieces.flatten := by
  -- a line may only be known to fit when the text is complete
  refine feedAll_induction (P := fun seen s => Fits limits seen → s.SearchesLines p seen)
    ?_ ?_ pieces (fun _ => searchesLines_start p) hfits
  · intro seen piece s b hresult h hfits
    rcases h hfits.of_append with ⟨htrue, line, hline, hin⟩ | ⟨rfl, -⟩
    · refine .inl ⟨htrue, line, ?_, hin⟩
      rw [finishedLines_append]
      exact List.mem_append_left _ hline
    · cases hresult
  · intro seen piece s hpiece hresult h hfits
    exact (h hfits.of_append).feed hresult hpiece hfits

theorem Scanner.SearchesLines.answer_iff {seen : List Char} (h : s.SearchesLines p seen) :
    s.answer true = true ↔ ∃ line ∈ linesOf seen, isIn p 0 line = true := by
  rcases h with ⟨htrue, line, hline, hin⟩ | ⟨rfl, hnone⟩
  · rw [answer_of_result true htrue]
    exact iff_of_true rfl ⟨line, mem_linesOf.2 (.inl hline), hin⟩
  · show ((!(unfinishedLine seen).isEmpty || seen.isEmpty) && isIn p 0 (unfinishedLine seen)) = true
      ↔ _
    rw [Bool.and_eq_true, Bool.or_eq_true, Bool.not_eq_true', List.isEmpty_eq_false_iff,
      List.isEmpty_iff]
    constructor
    · rintro ⟨hsome, hin⟩
      exact ⟨_, mem_linesOf.2 (.inr ⟨hsome, rfl⟩), hin⟩
    · rintro ⟨line, hline, hin⟩
      rcases mem_linesOf.1 hline with hfinished | ⟨hsome, rfl⟩
      · exact absurd hin (hnone line hfinished)
      · exact ⟨hsome, hin⟩

/-- Of a text none of whose lines is too long to be held, a pattern is found exactly if it is found in
one of the lines. -/
theorem holds_line_iff (limits : LineLimits) (p : Pattern) {text : List Char}
    {chunks : List (List UInt8)} (hchunks : chunks.flatten = Text.encode text)
    (hfits : ∀ line ∈ text.splitOn '\n', line.length ≤ limits.length) :
    (Matcher.line p).holds limits chunks = true ↔
      ∃ line ∈ linesOf text, (p.search 0 line).isSome = true := by
  obtain ⟨pieces, rfl, hholds⟩ := exists_pieces_encode limits hchunks
  rw [hholds]
  exact (Scanner.SearchesLines.feedAll hfits).answer_iff

/-- The expression `^b` and the lines `é` and `b`, of which the first is cut within the character. -/
theorem holds_line_iff_second :
    (Matcher.line ⟨"^b", false, .seq (.place ⟨.lineStart, false, false⟩)
        (.test (.set false [.code 98] .exact false))⟩).holds ⟨1, 0⟩
      [[0xc3], [0xa9, 0x0a], [], [0x62]] = true := by
  have hchunks : [[0xc3], [0xa9, 0x0a], [], [0x62]].flatten = Text.encode ['é', '\n', 'b'] := by
    decide
  exact (holds_line_iff ⟨1, 0⟩ _ hchunks (by decide)).2 ⟨['b'], by decide, by decide⟩

end FileQuery.Content
