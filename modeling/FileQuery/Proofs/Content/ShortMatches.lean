import FileQuery.Proofs.Content.Parts
import FileQuery.Proofs.Pattern.Language

/-!
# Short matches in long lines

Of a line that is too long to be held, the end is kept, with room for a match that is not over yet.  What
the expression matches within that room is found, unless it is part of something longer that the
expression matches as well: a match that reaches the end of what is held does not count yet, and its
beginning may be dropped.
-/

namespace FileQuery.Content

open Pattern (Node Cursor CharTest)

variable {limits : LineLimits} {p : Pattern} {dropped buffer text line a b w : List Char} {skip : Nat}

/-! ## 1. Texts within longer ones -/

/-- Where it stands, a text is part of one that the expression matches in full, too, and that is longer
than what two searched parts of a line have in common. -/
def IsCovered (limits : LineLimits) (p : Pattern) (a w b : List Char) : Prop :=
  ∃ a₁ a₂ b₁ b₂, a = a₁ ++ a₂ ∧ b = b₁ ++ b₂ ∧ limits.overlap < (a₂ ++ w ++ b₁).length ∧
    a₂ ++ w ++ b₁ ∈ p.node.language

theorem IsCovered.append (h : IsCovered limits p a w b) (text : List Char) :
    IsCovered limits p a w (b ++ text) := by
  obtain ⟨a₁, a₂, b₁, b₂, ha, hb, hrest⟩ := h
  exact ⟨a₁, a₂, b₁, b₂ ++ text, ha, by rw [hb, List.append_assoc], hrest⟩

theorem IsCovered.front (h : IsCovered limits p a w b) (text : List Char) :
    IsCovered limits p (text ++ a) w b := by
  obtain ⟨a₁, a₂, b₁, b₂, ha, hrest⟩ := h
  exact ⟨text ++ a₁, a₂, b₁, b₂, by rw [ha, List.append_assoc], hrest⟩

/-! ## 2. The parts that are held -/

/-- Of a line an end is held, with room for a short match behind the character that is there only as
context.  Short texts of the language stand in the part that is searched, unless they are covered. -/
structure KeepsShort (limits : LineLimits) (p : Pattern) (dropped buffer : List Char) (skip : Nat) :
    Prop where
  isEnd : IsEnd limits dropped buffer skip
  room : skip = 0 ∨ limits.overlap < buffer.length
  begins : ∀ a w b, dropped ++ buffer = a ++ w ++ b → w ∈ p.node.language →
    w.length ≤ limits.overlap → dropped.length + skip ≤ a.length ∨ IsCovered limits p a w b

/-- Where a text that is not found inside what is held begins early, it is covered. -/
theorem isCovered_of_isInside (hregular : p.node.isRegular = true) (hskip : skip ≤ buffer.length)
    (hinside : isInside p skip buffer = false) (hbuffer : buffer = a ++ w ++ b)
    (hw : w ∈ p.node.language) (hbegins : skip ≤ a.length)
    (hearly : a.length + limits.overlap < buffer.length) : IsCovered limits p a w b := by
  have hfound := Pattern.isSome_search_of_mem hregular hw hbuffer hbegins
  obtain ⟨m, hm⟩ := Option.isSome_iff_exists.1 hfound
  have hend : m.stop.after = [] := by
    by_contra hmore
    rw [isInside_iff_search.2 ⟨m, hm, hmore⟩] at hinside
    cases hinside
  -- the match that is found goes on to the end and begins no later
  obtain ⟨a₁, rest, hmatch, hrest, hfirst⟩ :=
    Pattern.exists_mem_language_of_search hregular hskip hm hend
  have hle : a₁.length ≤ a.length := hfirst a w b hbuffer hbegins hw
  have htail : a ++ (w ++ b) = a₁ ++ rest := by
    rw [← List.append_assoc, ← hbuffer, hmatch]
  obtain ⟨a₂, rfl, hcover⟩ := exists_append_of_length_le htail hle
  refine ⟨a₁, a₂, b, [], rfl, (List.append_nil b).symm, ?_, ?_⟩
  · rw [hmatch, List.length_append, hcover] at hearly
    rw [List.append_assoc]
    rw [List.length_append] at hearly
    omega
  · rw [List.append_assoc, ← hcover]
    exact hrest

theorem KeepsShort.hasRoom (h : KeepsShort limits p dropped buffer skip) :
    HasRoom limits dropped buffer skip := ⟨h.isEnd, h.room⟩

/-- More of the line may come. -/
theorem KeepsShort.append (h : KeepsShort limits p dropped buffer skip) (text : List Char) :
    KeepsShort limits p dropped (buffer ++ text) skip where
  isEnd := h.isEnd.append text
  room := (h.hasRoom.append text).room
  begins a w b hab hw hshort := by
    rw [← List.append_assoc] at hab
    rcases occurrence_append hab.symm with ⟨c, hc, rfl⟩ | hbeyond
    · exact (h.begins a w c hc hw hshort).imp_right fun hcovered => hcovered.append text
    · -- a text that is not over yet has begun in the part that is kept for it
      rw [List.length_append] at hbeyond
      rcases h.isEnd with ⟨rfl, rfl⟩ | ⟨rfl, -⟩
      · exact .inl (Nat.zero_le a.length)
      · have hroom := h.room.resolve_left Nat.one_ne_zero
        exact .inl (by omega)

/-- Of a line in which nothing is found, or only a match that goes on to the end, the end can be kept. -/
theorem KeepsShort.keepEnd (h : KeepsShort limits p dropped buffer skip)
    (hregular : p.node.isRegular = true) (hlimits : limits.overlap < limits.length)
    (hlong : limits.length < buffer.length) (hinside : isInside p skip buffer = false) :
    KeepsShort limits p (dropped ++ buffer.take (buffer.length - (limits.overlap + 1)))
      (lastOf (limits.overlap + 1) buffer) 1 where
  isEnd := isEnd_isKept.keepEnd _ _ _ h.isEnd hlong hinside
  room := (h.hasRoom.keepEnd hlimits hlong hinside).room
  begins a w b hab hw hshort := by
    rw [List.append_assoc, take_append_lastOf] at hab
    rcases h.begins a w b hab hw hshort with hbegins | hcovered
    · obtain ⟨c, rfl, hc⟩ := exists_occurrence_of_length_le hab (by omega)
      rw [List.length_append] at hbegins
      rw [List.length_append, List.length_append, List.length_take]
      -- what begins before the part that is kept is covered by the match
      by_cases hearly : c.length + limits.overlap < buffer.length
      · have hcovered :=
          isCovered_of_isInside hregular h.isEnd.skip_le.1 hinside hc hw (by omega) hearly
        exact .inr (hcovered.front dropped)
      · exact .inl (by omega)
    · exact .inr hcovered

theorem keepsShort_isKept (hregular : p.node.isRegular = true)
    (hlimits : limits.overlap < limits.length) :
    PartLaw.IsKept limits p (KeepsShort limits p) where
  whole _ := ⟨.inl ⟨rfl, rfl⟩, .inl rfl, fun a _ _ _ _ _ => .inl (Nat.zero_le a.length)⟩
  append _ _ _ text h := h.append text
  keepEnd _ _ _ h hlong hinside := h.keepEnd hregular hlimits hlong hinside
  held _ _ h := isEnd_isKept.held (p := p) _ _ h.isEnd

/-! ## 3. Short texts -/

/-- In a line that has been searched in vain, a short text of the language is covered. -/
theorem isCovered_of_searched (hregular : p.node.isRegular = true)
    (h : PartLaw.Searched (KeepsShort limits p) p false line) (hline : line = a ++ w ++ b)
    (hw : w ∈ p.node.language) (hshort : w.length ≤ limits.overlap) :
    limits.length < line.length ∧ IsCovered limits p a w b := by
  obtain ⟨dropped, buffer, skip, rfl, hkeeps, hin⟩ := h
  have hlate : ¬ dropped.length + skip ≤ a.length := by
    intro hbegins
    obtain ⟨c, rfl, hbuffer⟩ := exists_occurrence_of_length_le hline (by omega)
    rw [List.length_append] at hbegins
    have hfound : (p.search skip buffer).isSome = true :=
      Pattern.isSome_search_of_mem hregular hw hbuffer (by omega)
    rw [isIn, hfound] at hin
    cases hin
  refine ⟨?_, (hkeeps.begins a w b hline hw hshort).resolve_left hlate⟩
  rcases hkeeps.isEnd with ⟨rfl, rfl⟩ | ⟨-, -, hlong⟩
  · exact absurd (Nat.zero_le a.length) hlate
  · exact hlong

/-! ## 4. A text that is covered -/

section restOfLine

variable {c : Char} {place : Cursor} {m : Pattern.Match}

def restOfLine (c : Char) : Node := .seq (.test (.only c)) (.run .greedy 0 none .notNewline)

/-- The match begins with the character and ends where the line does. -/
theorem matchAt_restOfLine (hplace : '\n' ∉ place.after)
    (h : (restOfLine c).matchAt place = some m) : c ∈ place.after ∧ m.stop.after = [] := by
  have hseq : (restOfLine c).matchAt place = (Node.test (.only c)).matcher place []
      fun d g => Pattern.Matcher.run .greedy 0 none .notNewline d g Pattern.Matcher.finish := rfl
  rw [hseq, Pattern.matcher_test] at h
  split at h
  · next next hstep =>
    obtain ⟨x, hx, hfirst⟩ := Cursor.step?_eq_some.1 hstep
    rw [CharTest.only_holds] at hx
    obtain ⟨w, d, hskip, hpass, -, -, hend⟩ :=
      Pattern.skipRun_spec .notNewline next.after.length 0 next
    -- the run takes all that it can, and nothing is given back
    rw [Pattern.run_greedy, Pattern.roomFor, hskip] at h
    dsimp only at h
    rw [if_neg (Nat.not_lt_zero _), Pattern.giveBack_finish] at h
    cases h
    have hafter : place.after = [x] ++ (w ++ d.after) := by rw [hfirst.after, hpass.after]
    refine ⟨hafter ▸ hx ▸ List.mem_cons_self, ?_⟩
    show d.after = []
    rcases hend with hlength | hstop
    · have hall := hpass.length
      exact List.length_eq_zero_iff.1 (by omega)
    · -- a character that is left is not a line feed
      rw [Cursor.step?_eq_none] at hstop
      rcases hd : d.after with _ | ⟨y, rest⟩
      · rfl
      · refine absurd (bne_iff_ne.2 ?_) (hstop y (by rw [hd]; rfl))
        rintro rfl
        refine hplace (hafter ▸ ?_)
        rw [hd]
        exact List.mem_append_right _ (List.mem_append_right _ List.mem_cons_self)
  · cases h

/-- In a line it is found at the end, or not at all. -/
theorem search_restOfLine (hp : p.node = restOfLine c) (hskip : skip ≤ line.length)
    (hline : '\n' ∉ line) (h : p.search skip line = some m) : c ∈ line ∧ m.stop.after = [] := by
  obtain ⟨a, b, rfl, -, hmatch, -⟩ := Pattern.search_eq_some hskip h
  rw [hp] at hmatch
  obtain ⟨hmem, hend⟩ := matchAt_restOfLine (fun hfeed => hline (List.mem_append_right a hfeed)) hmatch
  exact ⟨List.mem_append_right a hmem, hend⟩

/-- If a line is too long to be held, the match is given up with the beginning of the line. -/
theorem not_holds_restOfLine (hp : p.node = restOfLine c) {xs : List Char} (hfeed : '\n' ∉ c :: xs)
    (hc : c ∉ xs) (hlong : limits.length ≤ xs.length) (hroom : limits.overlap < xs.length) :
    (Matcher.line p).holds limits [Text.encode (c :: xs)] = false := by
  have hxs : '\n' ∉ xs := fun hmem => hfeed (List.mem_cons_of_mem c hmem)
  have hinside : ¬ isInside p 0 (c :: xs) = true := by
    rw [isInside_iff_search]
    rintro ⟨m, hm, hmore⟩
    exact hmore (search_restOfLine hp (Nat.zero_le _) hfeed hm).2
  -- what is kept of the line is an end of it without the character
  have hkept : lastOf (limits.overlap + 1) (c :: xs) = lastOf (limits.overlap + 1) xs :=
    lastOf_append [c] hroom
  have hskip : 1 ≤ (lastOf (limits.overlap + 1) xs).length := by
    rw [length_lastOf]
    omega
  have hin : isIn p 1 (lastOf (limits.overlap + 1) xs) = false := by
    rw [isIn, Option.isSome_eq_false_iff, Option.isNone_iff_eq_none]
    by_contra hfound
    obtain ⟨m, hm⟩ := Option.ne_none_iff_exists'.1 hfound
    have hmem : c ∈ lastOf (limits.overlap + 1) xs :=
      (search_restOfLine hp hskip (fun hmem => hxs (List.mem_of_mem_drop hmem)) hm).1
    exact hc (List.mem_of_mem_drop hmem)
  have hlonger : ¬ (c :: xs).length ≤ limits.length := Nat.not_le_of_lt (Nat.lt_succ_of_le hlong)
  have hfed : (Scanner.start (.line p)).feed limits (c :: xs) =
      ⟨.line p (lastOf (limits.overlap + 1) xs) 1 false, none⟩ := by
    rw [feed_start_line limits p hfeed (List.cons_ne_nil c xs), Progress.keepLine, if_neg hlonger,
      if_neg hinside, hkept]
  rw [show [Text.encode (c :: xs)] = [c :: xs].map Text.encode from rfl, holds_map_encode]
  show ((Scanner.start (.line p)).feed limits (c :: xs)).answer true = false
  rw [hfed]
  show ((!(lastOf (limits.overlap + 1) xs).isEmpty || false) && isIn p 1 _) = false
  rw [hin, Bool.and_false]

end restOfLine

/-! ## 5. Answers -/

/-- Where a regular expression in the narrow sense matches a text in full that is no longer than what two
searched parts of a line have in common, the answer is yes, unless the line is too long to be held and
the text is covered. -/
theorem holds_of_mem_language (limits : LineLimits) (hlimits : limits.overlap < limits.length)
    (p : Pattern) (hregular : p.node.isRegular = true) {text line a w b : List Char}
    {chunks : List (List UInt8)} (hchunks : chunks.flatten = Text.encode text)
    (hline : line ∈ linesOf text) (hoccurs : line = a ++ w ++ b) (hw : w ∈ p.node.language)
    (hshort : w.length ≤ limits.overlap) :
    (Matcher.line p).holds limits chunks = true ∨
      limits.length < line.length ∧ IsCovered limits p a w b := by
  obtain ⟨pieces, rfl, hholds⟩ := exists_pieces_encode limits hchunks
  have hkept := keepsShort_isKept hregular hlimits
  have hsearches := Scanner.SearchesParts.feedAll hkept pieces
  rw [hholds]
  cases hanswer : ((Scanner.start (.line p)).feedAll limits pieces).answer true with
  | true => exact .inl rfl
  | false =>
    have hsearched := hsearches.searched_of_answer hkept hanswer line hline
    exact .inr (isCovered_of_searched hregular hsearched hoccurs hw hshort)

/-- The expression `[ab]c` and a line of seven characters, of which four are held. -/
theorem holds_of_mem_language_cut :
    (Matcher.line ⟨"[ab]c", false, .seq (.test (.set false [.code 97, .code 98] .exact false))
        (.test (.only 'c'))⟩).holds ⟨4, 2⟩
      [[0x61, 0x61, 0x61, 0x61, 0x61, 0x62], [0x63]] = true := by
  have hchunks : [[0x61, 0x61, 0x61, 0x61, 0x61, 0x62], [0x63]].flatten =
      Text.encode ['a', 'a', 'a', 'a', 'a', 'b', 'c'] := by decide
  have hw : ['b', 'c'] ∈ (Node.seq (.test (.set false [.code 97, .code 98] .exact false))
      (.test (.only 'c'))).language :=
    Language.mem_mul.2 ⟨['b'], ⟨'b', by decide, rfl⟩, ['c'], ⟨'c', by decide, rfl⟩, rfl⟩
  refine (holds_of_mem_language ⟨4, 2⟩ (by decide) _ rfl hchunks (a := ['a', 'a', 'a', 'a', 'a'])
    (b := []) (by decide) rfl hw (by decide)).resolve_right ?_
  -- every text of this language has two characters
  rintro ⟨-, a₁, a₂, b₁, b₂, -, -, hlong, hmem⟩
  obtain ⟨_, ⟨x, -, rfl⟩, _, ⟨y, -, rfl⟩, htwo⟩ := Language.mem_mul.1 hmem
  rw [← htwo] at hlong
  exact absurd hlong (Nat.lt_irrefl 2)

/-- The expression `a.*` and a line of an `a` and 1048576 times an `x`: the expression matches the `a` in
full, but the answer is no. -/
theorem not_holds_first :
    let line := 'a' :: List.replicate (1024 * 1024) 'x'
    ∃ p, Pattern.ofRegex (.ofDepth 9) "a.*" = .ok p ∧ p.node.isRegular = true ∧ line ∈ linesOf line ∧
      line = [] ++ ['a'] ++ List.replicate (1024 * 1024) 'x' ∧ ['a'] ∈ p.node.language ∧
      (Matcher.line p).holds {} [Text.encode line] = false := by
  intro line
  have hparse : Pattern.ofRegex (.ofDepth 9) "a.*" = .ok ⟨"a.*", false, restOfLine 'a'⟩ := by
    decide +kernel
  have hx (c : Char) (hc : c ≠ 'x') : c ∉ List.replicate (1024 * 1024) 'x' :=
    fun hmem => hc (List.eq_of_mem_replicate hmem)
  have hline : '\n' ∉ line := by
    rw [List.mem_cons, not_or]
    exact ⟨by decide, hx '\n' (by decide)⟩
  have hword : ['a'] ∈ (restOfLine 'a').language :=
    Language.mem_mul.2 ⟨['a'], ⟨'a', by decide, rfl⟩, [], ⟨nofun, Nat.le_refl 0, nofun⟩, rfl⟩
  refine ⟨_, hparse, rfl, ?_, rfl, hword, ?_⟩
  · rw [linesOf_of_not_mem hline]
    exact List.mem_cons_self
  · refine not_holds_restOfLine rfl hline (hx 'a' (by decide)) ?_ ?_
    · exact Nat.le_of_eq List.length_replicate.symm
    · rw [List.length_replicate]
      decide

end FileQuery.Content
