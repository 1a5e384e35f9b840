import FileQuery.Proofs.Content.Parts
import FileQuery.Proofs.Pattern.Lasting

/-!
# Matches in parts of lines

Of a line that is too long to be held, parts are searched.  A part does not show what was dropped before
it, nor what is still to come.  A match in a part is one in the line, unless the expression asks of what
it does not show, or gives nothing back.
-/

namespace FileQuery.Content

open Pattern (Node Cursor CharTest)

variable {limits : LineLimits} {p : Pattern} {text line : List Char}

/-! ## 1. Matches in a part and in the line -/

/-- A pattern is found in a part of a line: from the beginning only if nothing comes before the part, and
up to the end only if nothing comes after it. -/
def IsFoundInPart (p : Pattern) (line : List Char) : Prop :=
  ∃ front part rest skip m, line = front ++ part ++ rest ∧ skip ≤ part.length ∧
    (front = [] ∨ 0 < skip) ∧ p.search skip part = some m ∧ (rest = [] ∨ m.stop.after ≠ [])

/-- A match that lasts is one in the line. -/
theorem IsFoundInPart.isSome_search (h : IsFoundInPart p line) (hlasting : p.node.isLasting = true)
    (hline : '\n' ∉ line) : (p.search 0 line).isSome = true := by
  obtain ⟨front, part, rest, skip, m, rfl, hskip, hfront, hm, hrest⟩ := h
  refine Pattern.isSome_search_of_part hlasting hskip hfront hm hrest fun hmem => hline ?_
  exact List.mem_append_left _ (List.mem_append_right _ hmem)

/-- What is found in the part that is left of a line is found in the line, if all of it is left. -/
theorem isFoundInPart_of_searched (h : (IsEnd limits).Searched p true line) :
    (p.search 0 line).isSome = true ∨ limits.length < line.length ∧ IsFoundInPart p line := by
  obtain ⟨dropped, buffer, skip, rfl, hend, hin⟩ := h
  obtain ⟨m, hm⟩ := Option.isSome_iff_exists.1 hin
  obtain ⟨hskip, hfront⟩ := hend.skip_le
  rcases hend with ⟨rfl, rfl⟩ | ⟨rfl, -, hlong⟩
  · exact .inl hin
  · exact .inr ⟨hlong, dropped, buffer, [], 1, m, (List.append_nil _).symm, hskip, hfront, hm, .inl rfl⟩

theorem isFoundInPart_of_foundInside (h : (IsEnd limits).FoundInside limits p line) :
    limits.length < line.length ∧ IsFoundInPart p line := by
  obtain ⟨dropped, buffer, skip, ⟨rest, rfl⟩, hend, hlong, hinside⟩ := h
  obtain ⟨hskip, hfront⟩ := hend.skip_le
  obtain ⟨m, hm, hmore⟩ := isInside_iff_search.1 hinside
  refine ⟨?_, dropped, buffer, rest, skip, m, rfl, hskip, hfront, hm, .inr hmore⟩
  rw [List.length_append, List.length_append]
  omega

/-! ## 2. A match that does not last -/

/-- A match inside the first piece of a line, if that is too long to be held, decides. -/
theorem holds_of_isInside (htext : '\n' ∉ text) (hlong : limits.length < text.length)
    (hinside : isInside p 0 text = true) (more : List (List Char)) :
    (Matcher.line p).holds limits ((text :: more).map Text.encode) = true := by
  have hsome : text ≠ [] := List.length_pos_iff.1 (Nat.zero_lt_of_lt hlong)
  have hfeed : (Scanner.start (.line p)).feed limits text = ⟨.line p text 0 false, some true⟩ := by
    rw [feed_start_line limits p htext hsome, Progress.keepLine, if_neg (Nat.not_le_of_lt hlong),
      if_pos hinside]
  rw [holds_map_encode]
  show (((Scanner.start (.line p)).feed limits text).feedAll limits more).answer true = true
  rw [hfeed, Scanner.feedAll_of_result more rfl]
  rfl

section notAhead

variable {c d : Char} {xs : List Char}

def notAhead (c d : Char) : Node :=
  .seq (.test (.only c)) (.look 0 true (.seq (.run .greedy 0 none .notNewline) (.test (.only d))))

/-- What must not follow is characters of the line and then the other one. -/
theorem isSome_matchAt_inLine (d : Char) (place : Cursor) :
    ((Node.seq (.run .greedy 0 none .notNewline) (.test (.only d))).matchAt place).isSome = true ↔
      ∃ v, '\n' ∉ v ∧ v ++ [d] <+: place.after := by
  rw [Pattern.isSome_matchAt_iff rfl]
  constructor
  · rintro ⟨w, hw, hbegin⟩
    obtain ⟨v, ⟨hv, -⟩, u, ⟨x, hx, rfl⟩, rfl⟩ := Language.mem_mul.1 hw
    rw [CharTest.only_holds] at hx
    exact ⟨v, fun hmem => bne_iff_ne.1 (hv _ hmem) rfl, hx ▸ hbegin⟩
  · rintro ⟨v, hv, hbegin⟩
    have hrun : ∀ x ∈ v, CharTest.notNewline.holds x = true := by
      intro x hx
      refine bne_iff_ne.2 ?_
      rintro rfl
      exact hv hx
    exact ⟨v ++ [d], Language.mem_mul.2 ⟨v, ⟨hrun, Nat.zero_le _, nofun⟩, [d],
      ⟨d, (CharTest.only_holds d d).2 rfl, rfl⟩, rfl⟩, hbegin⟩

/-- In a part of the line in which the other one does not stand, the character is found. -/
theorem isInside_notAhead (hp : p.node = notAhead c d) (hd : d ∉ xs) (hxs : xs ≠ []) :
    isInside p 0 (c :: xs) = true := by
  have hstep : (Cursor.start (c :: xs)).step? (.only c) = some ⟨[c], 1, xs⟩ :=
    if_pos ((CharTest.only_holds c c).2 rfl)
  have hnone : ¬ ((Node.seq (.run .greedy 0 none .notNewline) (.test (.only d))).matchAt
      ⟨[c], 1, xs⟩).isSome = true := by
    rw [isSome_matchAt_inLine]
    rintro ⟨v, -, hbegin⟩
    exact hd (hbegin.subset (List.mem_append_right _ List.mem_cons_self))
  have hmatch : p.node.matchAt (Cursor.start (c :: xs)) = some ⟨⟨[c], 1, xs⟩, []⟩ := by
    rw [hp, notAhead, Pattern.matchAt_notAhead, hstep]
    exact if_neg hnone
  have hsearch : p.search 0 (c :: xs) = some ⟨⟨[c], 1, xs⟩, []⟩ := by
    have hfirst : p.node.matchAt ⟨[], 0, c :: xs⟩ = some ⟨⟨[c], 1, xs⟩, []⟩ := hmatch
    show p.node.searchFrom [] 0 (c :: xs) = _
    rw [Node.searchFrom, hfirst]
  exact isInside_iff_search.2 ⟨_, hsearch, hxs⟩

/-- In a line that ends with the other one it is not. -/
theorem search_notAhead (hp : p.node = notAhead c d) (hcd : c ≠ d) (hc : c ∉ xs) (hxs : '\n' ∉ xs) :
    p.search 0 (c :: xs ++ [d]) = none := by
  rcases hsearch : p.search 0 (c :: xs ++ [d]) with _ | m
  · rfl
  obtain ⟨a, b, hline, -, hmatch, -⟩ := Pattern.search_eq_some (Nat.zero_le _) hsearch
  rw [hp, notAhead, Pattern.matchAt_notAhead] at hmatch
  split at hmatch
  · next place hstep =>
    obtain ⟨x, hx, hpass⟩ := Cursor.step?_eq_some.1 hstep
    rw [CharTest.only_holds] at hx
    have hb : b = c :: place.after := hx ▸ hpass.after
    -- the character stands only at the beginning
    have hafter : place.after = xs ++ [d] := by
      rw [hb] at hline
      cases a with
      | nil => exact (List.cons.inj hline).2.symm
      | cons y a =>
        have htail : xs ++ [d] = a ++ c :: place.after := hb ▸ (List.cons.inj hline).2
        have hmem : c ∈ xs ++ [d] := htail ▸ List.mem_append_right a List.mem_cons_self
        exact ((List.mem_append.1 hmem).elim hc fun h => hcd (List.mem_singleton.1 h)).elim
    rw [if_pos] at hmatch
    · cases hmatch
    · exact (isSome_matchAt_inLine d place).2 ⟨xs, hxs, hafter ▸ List.prefix_refl _⟩
  · cases hmatch

end notAhead

/-! ## 3. Answers -/

/-- If the answer is yes, the pattern is found in a line of the text; or the line is too long to be held,
the pattern is found in a part of it, and its matches need not last. -/
theorem isSome_search_of_holds (limits : LineLimits) (p : Pattern) {text : List Char}
    {chunks : List (List UInt8)} (hchunks : chunks.flatten = Text.encode text)
    (h : (Matcher.line p).holds limits chunks = true) :
    ∃ line ∈ linesOf text, (p.search 0 line).isSome = true ∨
      limits.length < line.length ∧ IsFoundInPart p line ∧ p.node.isLasting = false := by
  obtain ⟨pieces, rfl, hholds⟩ := exists_pieces_encode limits hchunks
  rw [hholds] at h
  obtain ⟨line, hline, hfound⟩ :=
    (Scanner.SearchesParts.feedAll (W := IsEnd limits) isEnd_isKept pieces).exists_of_answer h
  have hpart : (p.search 0 line).isSome = true ∨ limits.length < line.length ∧ IsFoundInPart p line :=
    hfound.elim isFoundInPart_of_searched fun h => .inr (isFoundInPart_of_foundInside h)
  refine ⟨line, hline, hpart.elim .inl fun ⟨hlong, hfound⟩ => ?_⟩
  by_cases hlasting : p.node.isLasting = true
  · exact .inl (hfound.isSome_search hlasting (lineFeed_not_mem_of_mem_linesOf hline))
  · exact .inr ⟨hlong, hfound, Bool.eq_false_iff.2 hlasting⟩

/-- The expression `\Bb`, a line of six characters, of which four are held, and a second line. -/
theorem isSome_search_of_holds_inside :
    let p : Pattern := ⟨"\\Bb", false, .seq (.place ⟨.noBoundary, false, false⟩) (.test (.only 'b'))⟩
    (Matcher.line p).holds ⟨4, 1⟩ [[0x61, 0x61, 0x61], [0x61, 0x61, 0x62, 0x0a, 0x61]] = true ∧
      ∃ line ∈ linesOf ['a', 'a', 'a', 'a', 'a', 'b', '\n', 'a'], (p.search 0 line).isSome = true ∨
        4 < line.length ∧ IsFoundInPart p line ∧ p.node.isLasting = false := by
  intro p
  have hchunks : [[0x61, 0x61, 0x61], [0x61, 0x61, 0x62, 0x0a, 0x61]].flatten =
      Text.encode ['a', 'a', 'a', 'a', 'a', 'b', '\n', 'a'] := by decide
  have hholds : (Matcher.line p).holds ⟨4, 1⟩
      [[0x61, 0x61, 0x61], [0x61, 0x61, 0x62, 0x0a, 0x61]] = true := by decide
  exact ⟨hholds, isSome_search_of_holds ⟨4, 1⟩ p hchunks hholds⟩

/-- The expression `a(?!.*b)` and a line of an `a`, 1048576 times an `x` and a `b`, in two chunks: what
is held of the line is too long when the `b` has not come yet. -/
theorem holds_line_unfounded :
    let line := 'a' :: List.replicate (1024 * 1024) 'x'
    ∃ p, Pattern.ofRegex (.ofDepth 9) "a(?!.*b)" = .ok p ∧
      [Text.encode line, Text.encode ['b']].flatten = Text.encode (line ++ ['b']) ∧
      (Matcher.line p).holds {} [Text.encode line, Text.encode ['b']] = true ∧
      ∀ complete ∈ linesOf (line ++ ['b']), p.search 0 complete = none := by
  intro line
  have hparse : Pattern.ofRegex (.ofDepth 9) "a(?!.*b)" = .ok ⟨"a(?!.*b)", false, notAhead 'a' 'b'⟩ := by
    decide +kernel
  have hx (c : Char) (hc : c ≠ 'x') : c ∉ List.replicate (1024 * 1024) 'x' :=
    fun hmem => hc (List.eq_of_mem_replicate hmem)
  have hlength : ({} : LineLimits).length < line.length := by
    rw [List.length_cons, List.length_replicate]
    exact Nat.lt_succ_self _
  have hsome : List.replicate (1024 * 1024) 'x' ≠ [] := by
    rw [ne_eq, List.replicate_eq_nil_iff]
    decide
  have hline : '\n' ∉ line := by
    rw [List.mem_cons, not_or]
    exact ⟨by decide, hx '\n' (by decide)⟩
  have hcomplete : '\n' ∉ line ++ ['b'] := by
    rw [List.mem_append, not_or]
    exact ⟨hline, by decide⟩
  refine ⟨_, hparse, ?_, ?_, ?_⟩
  · rw [List.flatten_cons, List.flatten_singleton, Text.encode_append]
  · exact holds_of_isInside hline hlength (isInside_notAhead rfl (hx 'b' (by decide)) hsome) [['b']]
  · rw [linesOf_of_not_mem hcomplete]
    intro complete hmem
    rw [List.mem_singleton.1 hmem]
    exact search_notAhead rfl (by decide) (hx 'a' (by decide)) (hx '\n' (by decide))

end FileQuery.Content
