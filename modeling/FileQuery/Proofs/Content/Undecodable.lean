import FileQuery.Proofs.Content.Windows

/-!
# Text before bytes that are no text

Where the bytes of a stream stop being text, the scanners give up.  A plain search has looked through all
of the text before that place; a regular expression has not looked through the line that was not finished
there, except for the parts of it that were too long to be held.
-/

namespace FileQuery.Content

open Pattern (IsLiteral Node)

variable {limits : LineLimits} {p : Pattern} {s : Scanner} {needle seen : List Char}

theorem Scanner.answer_false_iff : s.answer false = true ↔ s.result = some true := by
  rw [answer, if_neg Bool.false_ne_true, finish_abort]
  cases s.result with
  | none => exact iff_of_false Bool.false_ne_true nofun
  | some b => rw [Option.getD_some, Option.some.injEq]

/-- A scanner that gives up has found a text if that was in a finished line, or before the end of what
was held of the unfinished one. -/
theorem Scanner.SearchesParts.result_of_occurs (hp : IsLiteral p needle)
    (hlimits : limits.overlap < limits.length)
    (h : s.SearchesParts (Window limits.overlap needle) limits p seen)
    (hoccurs : (∃ line ∈ finishedLines seen, needle <:+: line) ∨
      ∃ a b, unfinishedLine seen = a ++ needle ++ b ∧ limits.length < needle.length + b.length) :
    s.result = some true := by
  rcases h with ⟨htrue, -⟩ | ⟨⟨dropped, buffer, skip, rfl, hline, hwindow, hfits⟩, hnone⟩
  · exact htrue
  exfalso
  rcases hoccurs with ⟨line, hmem, hoccurs⟩ | ⟨a, b, hab, hlong⟩
  · exact Bool.false_ne_true ((infix_iff_of_searched hp (hnone line hmem)).1 hoccurs)
  · -- the text stands behind what was dropped, so no more than fits comes after that
    rw [hline] at hab
    have hbegins := hwindow.begins a b hab
    have hlength := congrArg List.length hab
    rw [List.length_append, List.length_append, List.length_append] at hlength
    omega

/-- Where it has found the text, that is in a finished line, or in the unfinished one, and then this is
too long to be held. -/
theorem Scanner.SearchesParts.occurs_of_result (hp : IsLiteral p needle)
    (h : s.SearchesParts (Window limits.overlap needle) limits p seen)
    (hresult : s.result = some true) :
    (∃ line ∈ finishedLines seen, needle <:+: line) ∨
      limits.length < (unfinishedLine seen).length ∧ needle <:+: unfinishedLine seen := by
  rcases h with ⟨-, ⟨line, hline, hfound⟩ | ⟨line, hline, hinside⟩⟩ |
    ⟨⟨dropped, buffer, skip, rfl, -⟩, -⟩
  · exact .inl ⟨line, hline, (infix_iff_of_searched hp hfound).2 rfl⟩
  · have hoccurs := infix_of_foundInside hp hinside
    rcases mem_splitOn.1 hline with hfinished | rfl
    · exact .inl ⟨line, hfinished, hoccurs.2⟩
    · exact .inr hoccurs
  · cases hresult

/-- Of bytes that are not all text, a plain search looks through the text that they begin with.  The
regular expression for the same text finds it in every line that a line feed ends, and in the last one
if more than can be held follows from there on; if it finds it in the last line, that is too long to be
held. -/
theorem holds_escape_of_undecodable (stack : Pattern.Stack) (limits : LineLimits)
    (hlimits : limits.overlap < limits.length) (needle : String) (hfeed : '\n' ∉ needle.toList)
    (hpos : 1 ≤ needle.toList.length)
    (hneedle : needle.toList.length ≤ limits.overlap) {text : List Char}
    {chunks : List (List UInt8)} (htext : Text.IsLongestText chunks.flatten text)
    (hbytes : Text.encode text ≠ chunks.flatten) :
    ∃ m, Matcher.compile stack .matching (Pattern.escape needle) = .ok m ∧
      ((Matcher.contains needle).holds limits chunks = true ↔ needle.toList <:+: text) ∧
      ((∃ line ∈ finishedLines text, needle.toList <:+: line) ∨
          (∃ a b, unfinishedLine text = a ++ needle.toList ++ b ∧
            limits.length < needle.toList.length + b.length) → m.holds limits chunks = true) ∧
      (m.holds limits chunks = true →
        (∃ line ∈ finishedLines text, needle.toList <:+: line) ∨
          limits.length < (unfinishedLine text).length ∧ needle.toList <:+: unfinishedLine text) := by
  obtain ⟨p, hcompile, hp⟩ := Pattern.exists_ofRegex_escape stack needle
  have hempty : needle ≠ "" := by
    rintro rfl
    exact absurd hpos (by decide)
  have htext' := htext.eq_read
  obtain ⟨pieces, hpieces, hholds⟩ := exists_pieces_holds limits chunks
  rw [← htext'] at hpieces
  -- a stream that is not all text does not end between two characters
  have hstop : ((Text.Utf8State.between.read chunks.flatten).2 == some .between) = false := by
    rw [beq_eq_false_iff_ne, ne_eq, Text.Utf8State.read_eq_between_iff, ← htext']
    exact hbytes
  have hsearches := Scanner.SearchesParts.feedAll (window_isKept hp hlimits hneedle) pieces
  rw [hpieces] at hsearches
  refine ⟨.line p, by rw [Matcher.compile, hcompile]; rfl, ?_, fun hoccurs => ?_, fun hanswer => ?_⟩
  · rw [holds_contains_iff limits chunks hempty, ← htext']
  · rw [hholds, hstop, Scanner.answer_false_iff]
    exact hsearches.result_of_occurs hp hlimits hoccurs
  · rw [hholds, hstop, Scanner.answer_false_iff] at hanswer
    exact hsearches.occurs_of_result hp hanswer

/-- A line that is finished, and one with a byte that begins no character. -/
theorem holds_escape_of_undecodable_finished : ∃ m,
    Matcher.compile (.ofDepth 9) .matching (Pattern.escape ".b") = .ok m ∧
      m.holds ⟨4, 2⟩ [[0x61, 0x2e, 0x62, 0x0a], [0x61, 0xff]] = true := by
  have htext : Text.IsLongestText [[0x61, 0x2e, 0x62, 0x0a], [0x61, 0xff]].flatten
      ['a', '.', 'b', '\n', 'a'] :=
    Text.Utf8State.isLongestText_read [0x61, 0x2e, 0x62, 0x0a, 0x61, 0xff]
  obtain ⟨m, hm, -, hfound, -⟩ :=
    holds_escape_of_undecodable (.ofDepth 9) ⟨4, 2⟩ (by decide) ".b" (by decide)
    (by decide) (by decide) htext (by decide)
  exact ⟨m, hm, hfound (.inl ⟨['a', '.', 'b'], by decide, ['a'], [], rfl⟩)⟩

/-- The bytes of `TODO` and one that begins no character: a plain search finds the text, the regular
expression for it does not. -/
theorem not_holds_unfinished :
    Text.IsLongestText [0x54, 0x4f, 0x44, 0x4f, 0xff] ['T', 'O', 'D', 'O'] ∧
      (Matcher.contains "TODO").holds {} [[0x54, 0x4f, 0x44, 0x4f, 0xff]] = true ∧
      ∃ m, Matcher.compile (.ofDepth 9) .matching (Pattern.escape "TODO") = .ok m ∧
        m.holds {} [[0x54, 0x4f, 0x44, 0x4f, 0xff]] = false := by
  have hcompile : Matcher.compile (.ofDepth 9) .matching (Pattern.escape "TODO") =
      .ok (.line ⟨"TODO", false, Node.ofChars ['T', 'O', 'D', 'O']⟩) := by decide +kernel
  exact ⟨Text.Utf8State.isLongestText_read [0x54, 0x4f, 0x44, 0x4f, 0xff], by decide, _, hcompile,
    by decide⟩

end FileQuery.Content
