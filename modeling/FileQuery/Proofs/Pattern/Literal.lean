import FileQuery.Pattern.Compile
import FileQuery.Proofs.Result
import Mathlib.Data.List.Basic

/-!
# Regular expressions for a text

A text can be searched for with a regular expression: with a backslash before every character that may
have a meaning of its own, it is read as the characters one after another, and a match is an occurrence
of the text.
-/

namespace FileQuery.Pattern

/-! ## 1. Spelling -/

def specials : List Char := "()[]\x7b\x7d?*+-|^$\\.&~# \t\n\r\x0b\x0c".toList

def escapeChar (c : Char) : List Char := if specials.contains c then ['\\', c] else [c]

def escape (needle : String) : String := String.ofList (needle.toList.flatMap escapeChar)

/-! ## 2. Reading -/

/-- What a step of reading leaves is where the next one begins. -/
theorem run_bind_ok {α β : Type} {x : Reader α} {f : α → Reader β} {s s' : Progress} {a : α}
    (h : x.run s = .ok (a, s')) : (x >>= f).run s = (f a).run s' := by
  rw [StateT.run_bind, h]
  rfl

section pieces

variable {c : Char} {more : List Char} {s : Progress}

theorem checkEnd_run (position : Nat) (hmore : more ≠ ['\\']) :
    (Reader.checkEnd position more).run s = .ok ((), s) := by
  rw [Reader.checkEnd.eq_def]
  split
  · exact absurd rfl hmore
  · rfl

theorem peek_plain (hrest : s.rest = c :: more) (hc : c ≠ '\\') :
    Reader.peek.run s = .ok (some (.plain c), s) := by
  obtain ⟨position, _, _, _, _, _, _, _⟩ := s
  cases hrest
  rw [Reader.peek]
  refine (run_bind_ok (x := get) rfl).trans ?_
  dsimp only
  split
  · rename_i h
    cases h
  · rename_i h
    cases h
    exact absurd rfl hc
  · rename_i h
    cases h
    rfl

theorem peek_escape (hrest : s.rest = '\\' :: c :: more) :
    Reader.peek.run s = .ok (some (.escape c), s) := by
  obtain ⟨position, _, _, _, _, _, _, _⟩ := s
  cases hrest
  rfl

def Progress.after (s : Progress) (piece : Piece) (more : List Char) : Progress :=
  { s with position := s.position + piece.chars.length, rest := more }

theorem take_run {piece : Piece} (hpeek : Reader.peek.run s = .ok (some piece, s))
    (hrest : s.rest = piece.chars ++ more) (hmore : more ≠ ['\\']) :
    Reader.take.run s = .ok (some piece, s.after piece more) := by
  have hdrop : s.rest.drop piece.chars.length = more := by rw [hrest, List.drop_left]
  have hcheck := checkEnd_run (s := s) (s.position + piece.chars.length) hmore
  rw [Reader.take, run_bind_ok hpeek]
  refine (run_bind_ok (x := get) rfl).trans ?_
  rw [hdrop]
  exact run_bind_ok hcheck

theorem readSequence_plain (items : List Item) (fuel : Nat) (hrest : s.rest = c :: more)
    (hc : specials.contains c = false) (hmore : more ≠ ['\\']) :
    (readSequence false false true items (fuel + 1)).run s =
      (readSequence false false true (.plain (.code false c.toNat) :: items) fuel).run
        (s.after (.plain c) more) := by
  have hne : ∀ d ∈ specials, c ≠ d := by
    rintro d hd rfl
    rw [List.contains_iff_mem.2 hd] at hc
    cases hc
  have hpeek := peek_plain hrest (hne '\\' (by decide))
  have htake := take_run hpeek hrest hmore
  have hends : (c == '|' || c == ')') = false := by
    rw [Bool.or_eq_false_iff, beq_eq_false_iff_ne, beq_eq_false_iff_ne]
    exact ⟨hne '|' (by decide), hne ')' (by decide)⟩
  refine (run_bind_ok hpeek).trans ?_
  refine (run_bind_ok (x := get) rfl).trans ?_
  show StateT.run (if (c == '|' || c == ')') = true then _ else _) s = _
  rw [hends, if_neg Bool.false_ne_true, run_bind_ok htake]
  simp only [Bool.false_and, if_neg Bool.false_ne_true]
  -- the character is none of those with a meaning of their own
  split <;> first
    | exact (hne _ (by decide) rfl).elim
    | rfl

/-- Only letters and digits have a meaning of their own after a backslash. -/
theorem readEscape_run (hc : c.isAlphanum = false) :
    (readEscape c).run s = .ok (.code false c.toNat, s) := by
  -- every table of escapes has letters and digits only, apart from the backslash itself
  have hclass : classEscape? c = none := by
    rw [classEscape?.eq_def]
    split <;> first | exact absurd hc (by decide) | rfl
  have hplace : placeEscape? c = none := by
    rw [placeEscape?.eq_def]
    split <;> first | exact absurd hc (by decide) | rfl
  by_cases hbackslash : c = '\\'
  · rw [hbackslash]
    rfl
  · have hcontrol : controlEscape? c = none := by
      rw [controlEscape?.eq_def]
      split <;> first
        | exact absurd hc (by decide)
        | exact absurd rfl hbackslash
        | rfl
    have hzero : (c == '0') = false := by
      rw [beq_eq_false_iff_ne]
      rintro rfl
      exact absurd hc (by decide)
    have hdigit : c.isDigit = false := by
      rw [Char.isAlphanum, Bool.or_eq_false_iff] at hc
      exact hc.2
    have hcode : (readCodeEscape c).run s = .ok (c.toNat, s) := by
      rw [readCodeEscape.eq_def]
      split <;> first
        | exact absurd hc (by decide)
        | skip
      rw [hc]
      rfl
    rw [readEscape, hclass, hplace, hcontrol]
    show StateT.run (if (c == '0') = true then _ else _) s = _
    rw [hzero, hdigit, if_neg Bool.false_ne_true, if_neg Bool.false_ne_true]
    exact run_bind_ok hcode

theorem readSequence_escape (items : List Item) (fuel : Nat) (hrest : s.rest = '\\' :: c :: more)
    (hc : c.isAlphanum = false) (hmore : more ≠ ['\\']) :
    (readSequence false false true items (fuel + 1)).run s =
      (readSequence false false true (.plain (.code false c.toNat) :: items) fuel).run
        (s.after (.escape c) more) := by
  have hpeek := peek_escape hrest
  have htake := take_run hpeek hrest hmore
  refine (run_bind_ok hpeek).trans ?_
  refine (run_bind_ok (x := get) rfl).trans ?_
  refine (run_bind_ok htake).trans ?_
  exact run_bind_ok (readEscape_run hc)

end pieces

theorem flatMap_escapeChar_ne (needle : List Char) : needle.flatMap escapeChar ≠ ['\\'] := by
  cases needle with
  | nil => exact (List.cons_ne_nil _ _).symm
  | cons c needle =>
    rw [List.flatMap_cons, escapeChar]
    by_cases hc : specials.contains c = true
    · rw [if_pos hc]
      exact fun h => List.cons_ne_nil _ _ (List.cons.inj h).2
    · rw [if_neg hc]
      intro h
      rw [(List.cons.inj h).1] at hc
      exact hc (by decide)

def Regex.ofChars : List Char → Regex
  | [] => .empty
  | [c] => .code false c.toNat
  | c :: d :: rest => .seq (.code false c.toNat) (Regex.ofChars (d :: rest))

def Item.ofChar (c : Char) : Item := .plain (.code false c.toNat)

theorem sequenceOf_map_ofChar (needle : List Char) :
    sequenceOf (needle.reverse.map Item.ofChar) = Regex.ofChars needle := by
  rw [sequenceOf, List.foldl_map, List.foldl_reverse]
  induction needle with
  | nil => rfl
  | cons c needle ih =>
    rw [List.foldr_cons, ih]
    cases needle with
    | nil => rfl
    | cons d rest => cases rest <;> rfl

theorem readSequence_escapeChar {c : Char} {more : List Char} {s : Progress} (items : List Item)
    (fuel : Nat) (hrest : s.rest = escapeChar c ++ more) (hmore : more ≠ ['\\']) :
    ∃ position, (readSequence false false true items (fuel + 1)).run s =
      (readSequence false false true (.ofChar c :: items) fuel).run
        { s with position := position, rest := more } := by
  rw [escapeChar] at hrest
  by_cases hc : specials.contains c = true
  · rw [if_pos hc] at hrest
    have hspecials : specials.all (!·.isAlphanum) = true := by decide
    have halphanum := List.all_eq_true.1 hspecials c (List.contains_iff_mem.1 hc)
    rw [Bool.not_eq_true'] at halphanum
    exact ⟨_, readSequence_escape items fuel hrest halphanum hmore⟩
  · rw [if_neg hc] at hrest
    exact ⟨_, readSequence_plain items fuel hrest (Bool.eq_false_iff.2 hc) hmore⟩

/-- An escaped text is read as its characters. -/
theorem readSequence_escape_all (needle : List Char) (items : List Item) {fuel : Nat} {s : Progress}
    (hrest : s.rest = needle.flatMap escapeChar) (hfuel : needle.length < fuel) :
    ∃ position, (readSequence false false true items fuel).run s =
      .ok (sequenceOf (needle.reverse.map Item.ofChar ++ items),
        { s with position := position, rest := [] }) := by
  induction needle generalizing items fuel s with
  | nil =>
    obtain ⟨fuel, rfl⟩ := Nat.exists_eq_succ_of_ne_zero (Nat.ne_zero_of_lt hfuel)
    obtain ⟨position, rest, _, _, _, _, _, _⟩ := s
    cases hrest
    exact ⟨position, rfl⟩
  | cons c needle ih =>
    obtain ⟨fuel, rfl⟩ := Nat.exists_eq_succ_of_ne_zero (Nat.ne_zero_of_lt hfuel)
    -- one character, and then what is left
    obtain ⟨position, hstep⟩ :=
      readSequence_escapeChar items fuel hrest (flatMap_escapeChar_ne needle)
    rw [hstep]
    obtain ⟨position', hread⟩ := ih (.ofChar c :: items)
      (s := { s with position := position, rest := needle.flatMap escapeChar }) rfl
      (Nat.lt_of_succ_lt_succ hfuel)
    refine ⟨position', hread.trans ?_⟩
    rw [List.reverse_cons, List.map_append, List.append_assoc]
    rfl

theorem length_le_flatMap_escapeChar (needle : List Char) :
    needle.length ≤ (needle.flatMap escapeChar).length := by
  induction needle with
  | nil => exact Nat.le_refl 0
  | cons c needle ih =>
    have hc : 0 < (escapeChar c).length := by
      rw [escapeChar]
      split <;> exact Nat.succ_pos _
    rw [List.flatMap_cons, List.length_append, List.length_cons]
    omega

theorem readAlternatives_escape (needle : List Char) {fuel : Nat} {s : Progress}
    (hrest : s.rest = needle.flatMap escapeChar) (hfuel : needle.length < fuel) :
    ∃ position, (readAlternatives false false true (fuel + 1)).run s =
      .ok (.ofChars needle, { s with position := position, rest := [] }) := by
  obtain ⟨position, hread⟩ := readSequence_escape_all needle [] hrest hfuel
  rw [List.append_nil, sequenceOf_map_ofChar] at hread
  refine ⟨position, ?_⟩
  rw [readAlternatives, run_bind_ok hread]
  rfl

theorem read_escape (needle : String) : Expression.read (escape needle) =
    .ok ⟨.ofChars needle.toList, { Flags.none with unicode := true }, []⟩ := by
  have hfuel : needle.toList.length < 3 * (needle.toList.flatMap escapeChar).length + 2 := by
    have hlength := length_le_flatMap_escapeChar needle.toList
    omega
  obtain ⟨position, hread⟩ := readAlternatives_escape needle.toList
    (s := ⟨0, needle.toList.flatMap escapeChar, 1, [], [], none, [], Flags.none⟩) rfl hfuel
  have hrun : readExpression.run
      ⟨0, needle.toList.flatMap escapeChar, 1, [], [], none, [], Flags.none⟩ =
      .ok (⟨.ofChars needle.toList, { Flags.none with unicode := true }, []⟩,
        ⟨position, [], 1, [], [], none, [], Flags.none⟩) := by
    refine (run_bind_ok (x := get) rfl).trans ?_
    refine (run_bind_ok (checkEnd_run 0 (flatMap_escapeChar_ne needle.toList))).trans ?_
    exact run_bind_ok hread
  rw [Expression.read, escape, String.toList_ofList, hrun]
  rfl

/-! ## 3. Matching -/

def CharTest.only (c : Char) : CharTest := .set false [.code c.toNat] .exact false

theorem CharTest.only_holds (c d : Char) : (only c).holds d = true ↔ c = d := by
  have hcode : codeHolds .exact c.toNat d = decide (c.toNat = d.toNat) := by
    show (if c.toNat.isValidChar then
      decide ((Char.ofNat c.toNat).toNat = d.toNat) || false else false) = _
    rw [if_pos (show c.toNat.isValidChar from c.valid), Bool.or_false, Char.ofNat_toNat]
  show ((codeHolds .exact c.toNat d || false) != false) = true ↔ c = d
  rw [Bool.or_false, Bool.bne_false, hcode, decide_eq_true_eq, Char.toNat_inj]

def Node.ofChars : List Char → Node
  | [] => .empty
  | [c] => .test (.only c)
  | c :: d :: rest => .seq (.test (.only c)) (Node.ofChars (d :: rest))

theorem compile_ofChars (needle : List Char) :
    (Regex.ofChars needle).compile [] { Flags.none with unicode := true } =
      .ok (Node.ofChars needle) := by
  have hcode (c : Char) : (Regex.code false c.toNat).compile [] { Flags.none with unicode := true } =
      .ok (.test (.only c)) := by
    have hfold : foldCode .exact c.toNat = c.toNat := by
      rw [foldCode, if_pos (show c.toNat.isValidChar from c.valid), Folding.apply,
        Char.ofNat_toNat]
    show Except.ok (Node.test (.set false [.code (foldCode .exact c.toNat)] .exact false)) = _
    rw [hfold]
    rfl
  induction needle with
  | nil => rfl
  | cons c needle ih =>
    cases needle with
    | nil => exact hcode c
    | cons d rest =>
      rw [Regex.ofChars, Regex.compile, hcode, ih]
      rfl

def Cursor.past (place : Cursor) (needle : List Char) : Cursor :=
  ⟨needle.reverse ++ place.before, place.position + needle.length,
    place.after.drop needle.length⟩

theorem Cursor.past_cons (place : Cursor) (c : Char) (needle : List Char) :
    (place.past [c]).past needle = place.past (c :: needle) := by
  have hbefore : needle.reverse ++ ([c] ++ place.before) = (c :: needle).reverse ++ place.before := by
    rw [List.reverse_cons, List.append_assoc]
  have hposition : place.position + 1 + needle.length = place.position + (needle.length + 1) := by
    omega
  have hafter : (place.after.drop 1).drop needle.length = place.after.drop (needle.length + 1) := by
    rw [List.drop_drop, Nat.add_comm]
  exact Cursor.mk.injEq .. |>.mpr ⟨hbefore, hposition, hafter⟩

section matching

variable {needle : List Char} {place : Cursor} {g : Captures} {k : Continuation}

theorem matcher_ofChars_cons (c : Char) : (Node.ofChars (c :: needle)).matcher place g k =
    (Node.test (.only c)).matcher place g fun place g => (Node.ofChars needle).matcher place g k := by
  cases needle <;> rfl

theorem matcher_test (t : CharTest) : (Node.test t).matcher place g k =
    match place.step? t with
    | some place => k place g
    | none => none := rfl

theorem matcher_only_of_eq {c : Char} {rest : List Char} (h : place.after = c :: rest) :
    (Node.test (.only c)).matcher place g k = k (place.past [c]) g := by
  obtain ⟨before, position, _⟩ := place
  cases h
  rw [matcher_test, Cursor.step?]
  dsimp only
  rw [if_pos ((CharTest.only_holds c c).2 rfl)]
  rfl

theorem matcher_only_of_ne {c : Char} (h : ∀ rest, place.after ≠ c :: rest) :
    (Node.test (.only c)).matcher place g k = none := by
  obtain ⟨before, position, after⟩ := place
  cases after with
  | nil => rfl
  | cons d rest =>
    have hne : ¬ (CharTest.only c).holds d = true := by
      rw [CharTest.only_holds]
      rintro rfl
      exact h rest rfl
    rw [matcher_test, Cursor.step?]
    dsimp only
    rw [if_neg hne]

/-- A text that stands here is passed over. -/
theorem matcher_ofChars_of_isPrefix (h : needle <+: place.after) :
    (Node.ofChars needle).matcher place g k = k (place.past needle) g := by
  induction needle generalizing place with
  | nil => rfl
  | cons c needle ih =>
    obtain ⟨rest, hrest⟩ := h
    have hafter : (place.past [c]).after = needle ++ rest := by
      show place.after.drop 1 = _
      rw [← hrest]
      rfl
    rw [matcher_ofChars_cons, matcher_only_of_eq hrest.symm, ih ⟨rest, hafter.symm⟩,
      Cursor.past_cons]

theorem matcher_ofChars_of_not_isPrefix (h : ¬ needle <+: place.after) :
    (Node.ofChars needle).matcher place g k = none := by
  induction needle generalizing place with
  | nil => exact absurd List.nil_prefix h
  | cons c needle ih =>
    rw [matcher_ofChars_cons]
    by_cases hafter : ∃ rest, place.after = c :: rest
    · obtain ⟨rest, hrest⟩ := hafter
      rw [matcher_only_of_eq hrest]
      refine ih fun hfront => h ?_
      have hrest' : (place.past [c]).after = rest := congrArg (List.drop 1) hrest
      rw [hrest'] at hfront
      rw [hrest]
      exact (List.prefix_cons_inj c).2 hfront
    · exact matcher_only_of_ne fun rest hrest => hafter ⟨rest, hrest⟩

end matching

/-! ## 4. Searching -/

section searching

variable {needle : List Char}

theorem matchAt_of_isPrefix {place : Cursor} (h : needle <+: place.after) :
    (Node.ofChars needle).matchAt place = some ⟨place.past needle, []⟩ := by
  rw [Node.matchAt, matcher_ofChars_of_isPrefix h]
  rfl

theorem matchAt_of_not_isPrefix {place : Cursor} (h : ¬ needle <+: place.after) :
    (Node.ofChars needle).matchAt place = none := matcher_ofChars_of_not_isPrefix h

theorem searchFrom_nil (node : Node) (before : List Char) (position : Nat) :
    node.searchFrom before position [] = node.matchAt ⟨before, position, []⟩ := rfl

/-- A search finds the first place where the text stands. -/
theorem searchFrom_cons (before : List Char) (position : Nat) (d : Char) (text : List Char) :
    (Node.ofChars needle).searchFrom before position (d :: text) =
      if needle.isPrefixOf (d :: text) then
        some ⟨(⟨before, position, d :: text⟩ : Cursor).past needle, []⟩
      else (Node.ofChars needle).searchFrom (d :: before) (position + 1) text := by
  rw [Node.searchFrom]
  by_cases h : needle <+: d :: text
  · rw [matchAt_of_isPrefix h, if_pos (List.isPrefixOf_iff_prefix.2 h)]
  · rw [matchAt_of_not_isPrefix h, if_neg (mt List.isPrefixOf_iff_prefix.1 h)]

theorem searchFrom_isSome_iff (before : List Char) (position : Nat) (text : List Char) :
    ((Node.ofChars needle).searchFrom before position text).isSome = true ↔ needle <:+: text := by
  induction text generalizing before position with
  | nil =>
    rw [searchFrom_nil, List.infix_nil]
    by_cases h : needle = []
    · rw [matchAt_of_isPrefix (List.prefix_nil.2 h)]
      exact iff_of_true rfl h
    · rw [matchAt_of_not_isPrefix (mt List.prefix_nil.1 h)]
      exact iff_of_false Bool.false_ne_true h
  | cons d text ih =>
    rw [searchFrom_cons, List.infix_cons_iff, ← ih (d :: before) (position + 1),
      ← List.isPrefixOf_iff_prefix]
    by_cases h : needle.isPrefixOf (d :: text) = true
    · rw [if_pos h]
      exact iff_of_true rfl (.inl h)
    · rw [if_neg h]
      exact (or_iff_right h).symm

/-- The first place where the text stands has something after it if any has. -/
theorem searchFrom_after_iff (before : List Char) (position : Nat) (text : List Char) :
    (∃ m, (Node.ofChars needle).searchFrom before position text = some m ∧ m.stop.after ≠ []) ↔
      ∃ a b, text = a ++ needle ++ b ∧ b ≠ [] := by
  induction text generalizing before position with
  | nil =>
    refine iff_of_false ?_ ?_
    · rintro ⟨m, hm, hafter⟩
      rw [searchFrom_nil] at hm
      by_cases h : needle <+: []
      · rw [matchAt_of_isPrefix h] at hm
        cases hm
        exact hafter List.drop_nil
      · rw [matchAt_of_not_isPrefix h] at hm
        cases hm
    · rintro ⟨a, b, hab, hb⟩
      exact hb (List.append_eq_nil_iff.1 hab.symm).2
  | cons d text ih =>
    rw [searchFrom_cons]
    by_cases h : needle <+: d :: text
    · obtain ⟨rest, hrest⟩ := h
      have hafter : (d :: text).drop needle.length = rest := by rw [← hrest, List.drop_left]
      rw [if_pos (List.isPrefixOf_iff_prefix.2 ⟨rest, hrest⟩)]
      constructor
      · rintro ⟨m, hm, hmore⟩
        cases hm
        exact ⟨[], rest, hrest.symm, hafter ▸ hmore⟩
      · -- a later occurrence has even less after it
        rintro ⟨a, b, hab, hb⟩
        refine ⟨_, rfl, ?_⟩
        show (d :: text).drop needle.length ≠ []
        have hlength := congrArg List.length (hrest.trans hab)
        rw [List.length_append, List.length_append, List.length_append] at hlength
        have hpos := List.length_pos_iff.2 hb
        rw [hafter, ← List.length_pos_iff]
        omega
    · rw [if_neg (mt List.isPrefixOf_iff_prefix.1 h), ih (d :: before) (position + 1)]
      constructor
      · rintro ⟨a, b, rfl, hb⟩
        exact ⟨d :: a, b, rfl, hb⟩
      · rintro ⟨a, b, hab, hb⟩
        cases a with
        | nil => exact absurd ⟨b, hab.symm⟩ h
        | cons e a =>
          cases hab
          exact ⟨a, b, rfl, hb⟩

end searching

/-! ## 5. Patterns for a text -/

structure IsLiteral (p : Pattern) (needle : List Char) : Prop where
  isSome_iff : ∀ skip line, (p.search skip line).isSome = true ↔ needle <:+: line.drop skip
  after_iff : ∀ skip line, (∃ m, p.search skip line = some m ∧ m.stop.after ≠ []) ↔
    ∃ a b, line.drop skip = a ++ needle ++ b ∧ b ≠ []

/-- An escaped text opens no groups. -/
theorem groupDepth_escape (opened : Nat) (needle : List Char) :
    groupDepth opened (needle.flatMap escapeChar) = opened := by
  induction needle with
  | nil => rfl
  | cons c needle ih =>
    rw [List.flatMap_cons, escapeChar]
    by_cases hspecial : specials.contains c = true
    · rw [if_pos hspecial]
      exact ih
    · have hne : ∀ d, specials.contains d = true → c ≠ d := by
        rintro d hd rfl
        exact hspecial hd
      rw [if_neg hspecial, List.singleton_append, groupDepth]
      · exact ih
      · exact fun _ _ h => absurd h (hne _ (by decide))
      · exact fun h => absurd h (hne _ (by decide))
      · exact fun h => absurd h (hne _ (by decide))

/-- A text whose characters are escaped is a pattern for the text. -/
theorem exists_ofRegex_escape (stack : Stack) (needle : String) :
    ∃ p, ofRegex stack (escape needle) = .ok p ∧ IsLiteral p needle.toList := by
  have hnode : Node.ofText (escape needle) = .ok (Node.ofChars needle.toList) := by
    rw [Node.ofText, read_escape]
    exact compile_ofChars needle.toList
  -- nothing is nested in it, so every stack is enough
  have hflat : stack.isEnough (escape needle) = true := by
    refine stack.flat _ ?_
    rw [escape, String.toList_ofList]
    exact groupDepth_escape 0 needle.toList
  refine ⟨⟨escape needle, false, Node.ofChars needle.toList⟩, ?_, ?_, ?_⟩
  · rw [ofRegex, if_pos hflat, hnode]
    rfl
  · exact fun skip line => searchFrom_isSome_iff _ _ _
  · exact fun skip line => searchFrom_after_iff _ _ _

end FileQuery.Pattern
