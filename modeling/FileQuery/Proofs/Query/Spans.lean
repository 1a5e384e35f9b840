import FileQuery.Proofs.Query.QuotedName

/-!
# Where tokens stand

The tokenizer goes over a query from left to right and leaves nothing out: every token stands for a
part of the query, the parts follow one another, and what lies between them are blanks.  A word and
a set are the text of their parts, and a quoted value is what the escapes in its part stand for.
-/

namespace FileQuery.Query

/-! ## 1. Parts of a query -/

/-- A part of a query: the position of its first character, and the position after its last. -/
structure Span where
  start : Nat
  stop : Nat
deriving DecidableEq, Repr

def Span.text (query : List Char) (span : Span) : String :=
  sourceSpan span.start span.stop (query.drop span.start)

inductive Lexeme.IsWritten : Lexeme → String → Prop
  | word {text : String} : text ≠ "" → IsWritten (.word text) text
  | quoted {quote : Char} {pieces : List QuotedPiece} : isQuote quote = true →
      (∀ p ∈ pieces, p.IsIn quote) →
      IsWritten (.quoted (String.ofList (pieces.map QuotedPiece.decoded)))
        (String.ofList (quote :: (pieces.flatMap QuotedPiece.text ++ [quote])))
  | set {source : String} {items : List String} : IsWritten (.set source items) source
  | sign {l : Lexeme} : l ∈ [.and, .or, .not, .openParen, .closeParen] → IsWritten l l.text
  | finish : IsWritten .finish ""

theorem Lexeme.IsWritten.eq_of_word {w text : String} (h : IsWritten (.word w) text) :
    text = w := by
  cases h with
  | word => rfl
  | sign hl => simp at hl

/-- A token stands for a part of a query, in which it is written; only the end is an empty part. -/
structure Token.StandsFor (query : List Char) (t : Token) (span : Span) : Prop where
  start : span.start = t.position
  stop : span.stop ≤ query.length
  filled : span.start < span.stop ∨ t.lexeme = .finish
  written : t.lexeme.IsWritten (span.text query)

/-- From a position on, tokens stand for parts of a query that follow one another, and what lies
outside of them are blanks. -/
structure LosslessFrom (query : List Char) (position : Nat) (ts : List Token) (spans : List Span) :
    Prop where
  tokens : List.Forall₂ (Token.StandsFor query) ts spans
  inside : ∀ span ∈ spans, position ≤ span.start
  ordered : spans.Pairwise fun span next => span.start < next.start ∧ span.stop ≤ next.start
  blanks : ∀ i c, position ≤ i → query[i]? = some c →
    (∀ span ∈ spans, ¬(span.start ≤ i ∧ i < span.stop)) → isSeparator c = true

/-! ## 2. What the scanners go over -/

/-- Behind the front of a text that starts at a position there are another position and the rest. -/
def IsBehind (position : Nat) (s : List Char) (stop : Nat) (rest : List Char) : Prop :=
  ∃ front, s = front ++ rest ∧ stop = position + front.length

theorem add_length_cons (position : Nat) (c : Char) (s : List Char) :
    position + 1 + s.length = position + (c :: s).length :=
  Nat.succ_add_eq_add_succ position s.length

section behind

variable {position stop : Nat} {s rest : List Char}

theorem IsBehind.refl (position : Nat) (s : List Char) : IsBehind position s position s :=
  ⟨[], rfl, rfl⟩

theorem IsBehind.cons (c : Char) (h : IsBehind (position + 1) s stop rest) :
    IsBehind position (c :: s) stop rest := by
  obtain ⟨front, rfl, rfl⟩ := h
  exact ⟨c :: front, rfl, add_length_cons position c front⟩

theorem IsBehind.trans {stop' : Nat} {rest' : List Char} (h : IsBehind position s stop rest)
    (h' : IsBehind stop rest stop' rest') : IsBehind position s stop' rest' := by
  obtain ⟨front, rfl, rfl⟩ := h
  obtain ⟨front', rfl, rfl⟩ := h'
  exact ⟨front ++ front', (List.append_assoc ..).symm, by rw [List.length_append]; omega⟩

theorem IsBehind.le (h : IsBehind position s stop rest) : position ≤ stop := by
  obtain ⟨front, -, rfl⟩ := h
  omega

theorem IsBehind.drop (h : IsBehind 0 s stop rest) : s.drop stop = rest := by
  obtain ⟨front, rfl, rfl⟩ := h
  rw [Nat.zero_add, List.drop_left]

theorem IsBehind.length_add (h : IsBehind position s stop rest) :
    stop + rest.length = position + s.length := by
  obtain ⟨front, rfl, rfl⟩ := h
  rw [List.length_append, Nat.add_assoc]

theorem IsBehind.length (h : IsBehind 0 s stop rest) : stop + rest.length = s.length := by
  rw [h.length_add, Nat.zero_add]

theorem isBehind_skipBlanks {start : Nat} (h : skipBlanks position s = (start, rest)) :
    IsBehind position s start rest := by
  obtain ⟨gap, hs, hstart, -⟩ := exists_gap h
  exact ⟨gap, hs, hstart⟩

theorem isBehind_scanQuoted {quote : Char} {start : Nat} {taken : List Char}
    {r : Scanned (List Char)} (h : scanQuoted quote start taken position s = .ok r) :
    IsBehind position s r.position r.rest := by
  obtain ⟨front, hs, hposition, -⟩ := scanQuoted_frame h
  exact ⟨front, hs, hposition⟩

theorem isBehind_scanBracket {start : Nat} {r : Nat × List Char}
    (h : scanBracket start position s = .ok r) : IsBehind position s r.1 r.2 := by
  obtain ⟨front, hs, hposition, -⟩ := scanBracket_frame h
  exact ⟨front, hs, hposition⟩

theorem isBehind_scanItem {r : Scanned (List Char)} (h : scanItem position s = .ok r) :
    IsBehind position s r.position r.rest := by
  unfold scanItem at h
  split at h
  · cases h
  · next c rest =>
    split at h
    · exact (isBehind_scanQuoted h).cons c
    · dsimp only at h
      split at h
      · cases h
      · cases h
        -- a bare item is the front that it was cut off from
        refine ⟨(c :: rest).takeWhile fun d => !endsItem d, ?_, rfl⟩
        exact (List.prefix_iff_eq_append.1 (List.takeWhile_prefix _)).symm

theorem isBehind_scanItems {items : List String} {r : Scanned (List String)}
    (h : scanItems items position s = .ok r) : IsBehind position s r.position r.rest := by
  fun_induction scanItems items position s with
  | case1 => cases h
  | case2 items position s start c rest hs hc =>
    cases h
    exact (isBehind_skipBlanks hs).trans (.cons c (.refl _ _))
  | case3 => cases h
  | case4 => cases h
  | case5 items position s start c rest hs hc item hi stop d rest' ha hd ih =>
    -- blanks, an item, blanks, a comma, and then the items that follow
    have hitem := (isBehind_skipBlanks hs).trans (isBehind_scanItem hi)
    have hcomma := hitem.trans ((isBehind_skipBlanks ha).trans (.cons d (.refl _ _)))
    exact hcomma.trans (ih h)
  | case6 items position s start c rest hs hc item hi stop d rest' ha hd hclose =>
    cases h
    have hitem := (isBehind_skipBlanks hs).trans (isBehind_scanItem hi)
    exact hitem.trans ((isBehind_skipBlanks ha).trans (.cons d (.refl _ _)))
  | case7 => cases h

end behind

/-! ## 3. Where the scanners refuse -/

/-- A query is refused at a position between the two given ones. -/
def RefusedBetween {α : Type} (low high : Nat) (r : Except SyntaxError α) : Prop :=
  ∀ e, r = .error e → low ≤ e.position ∧ e.position ≤ high

namespace RefusedBetween

variable {α β : Type} {low high : Nat} {r : Except SyntaxError α}

theorem ok (a : α) : RefusedBetween low high (.ok a : Except SyntaxError α) := nofun

theorem refused {cause : SyntaxCause} {position : Nat} {expected : List Expected}
    (hlow : low ≤ position) (hhigh : position ≤ high) :
    RefusedBetween low high (.error ⟨cause, position, expected⟩ : Except SyntaxError α) := by
  rintro _ ⟨⟩
  exact ⟨hlow, hhigh⟩

theorem error {e : SyntaxError} (h : RefusedBetween low high r) (hr : r = .error e) :
    RefusedBetween low high (.error e : Except SyntaxError β) := by
  rintro _ ⟨⟩
  exact h e hr

theorem mono {low' high' : Nat} (h : RefusedBetween low high r) (hlow : low' ≤ low)
    (hhigh : high ≤ high') : RefusedBetween low' high' r := fun e he =>
  ⟨Nat.le_trans hlow (h e he).1, Nat.le_trans (h e he).2 hhigh⟩

theorem bind_ok (h : RefusedBetween low high r) (f : α → β) :
    RefusedBetween low high (r >>= fun a => .ok (f a)) := by
  intro e he
  rcases bind_eq_error.1 he with he | ⟨a, -, ha⟩
  · exact h e he
  · cases ha

end RefusedBetween

theorem scanQuoted_between {quote : Char} {start position : Nat} (hstart : start ≤ position)
    (taken s : List Char) :
    RefusedBetween start (position + s.length) (scanQuoted quote start taken position s) := by
  fun_induction scanQuoted quote start taken position s with
  | case1 => exact .refused (Nat.le_refl _) (by omega)
  | case2 => exact .refused hstart (Nat.le_add_right _ _)
  | case3 => exact .refused hstart (Nat.le_add_right _ _)
  | case4 taken position e rest c _ ih =>
    refine (ih (by omega)).mono (Nat.le_refl _) ?_
    simp only [List.length_cons]
    omega
  | case5 => exact .ok _
  | case6 taken position c rest _ _ ih =>
    exact (ih (by omega)).mono (Nat.le_refl _) (add_length_cons position c rest).le

theorem scanItem_between (position : Nat) (s : List Char) :
    RefusedBetween position (position + s.length) (scanItem position s) := by
  unfold scanItem
  split
  · exact .refused (Nat.le_refl _) (Nat.le_add_right _ _)
  · next c rest =>
    split
    · exact (scanQuoted_between (Nat.le_succ position) [] rest).mono (Nat.le_refl _)
        (add_length_cons position c rest).le
    · dsimp only
      split
      · exact .refused (Nat.le_refl _) (Nat.le_add_right _ _)
      · exact .ok _

theorem scanItems_between (items : List String) (position : Nat) (s : List Char) :
    RefusedBetween position (position + s.length) (scanItems items position s) := by
  fun_induction scanItems items position s with
  | case1 items position s start hs =>
    have hlength := (isBehind_skipBlanks hs).length_add
    exact .refused (isBehind_skipBlanks hs).le (Nat.le.intro hlength)
  | case2 => exact .ok _
  | case3 items position s start c rest hs hc e hi =>
    -- the error is inside the item, which begins behind the blanks
    have hblanks := isBehind_skipBlanks hs
    exact ((scanItem_between start (c :: rest)).error hi).mono hblanks.le hblanks.length_add.le
  | case4 items position s start c rest hs hc item hi stop ha =>
    have hitem := (isBehind_skipBlanks hs).trans (isBehind_scanItem hi)
    have hstop := hitem.trans (isBehind_skipBlanks ha)
    exact .refused hstop.le (Nat.le.intro hstop.length_add)
  | case5 items position s start c rest hs hc item hi stop d rest' ha hd ih =>
    have hitem := (isBehind_skipBlanks hs).trans (isBehind_scanItem hi)
    have hcomma := hitem.trans ((isBehind_skipBlanks ha).trans (.cons d (.refl _ _)))
    exact ih.mono hcomma.le hcomma.length_add.le
  | case6 => exact .ok _
  | case7 items position s start c rest hs hc item hi stop d rest' ha hd hclose =>
    have hitem := (isBehind_skipBlanks hs).trans (isBehind_scanItem hi)
    have hstop := hitem.trans (isBehind_skipBlanks ha)
    exact .refused hstop.le (Nat.le.intro hstop.length_add)

theorem scanBracket_between {start position : Nat} (hstart : start ≤ position) (s : List Char) :
    RefusedBetween start (position + s.length) (scanBracket start position s) := by
  fun_induction scanBracket start position s with
  | case1 => exact .refused (Nat.le_refl _) (by omega)
  | case2 position c rest _ e hq =>
    exact ((scanQuoted_between (Nat.le_succ position) [] rest).error hq).mono hstart
      (add_length_cons position c rest).le
  | case3 position c rest _ q hq ih =>
    have hquoted := (isBehind_scanQuoted hq).cons c
    exact (ih (Nat.le_trans hstart hquoted.le)).mono (Nat.le_refl _) hquoted.length_add.le
  | case4 => exact .ok _
  | case5 position c rest _ _ ih =>
    exact (ih (by omega)).mono (Nat.le_refl _) (add_length_cons position c rest).le

theorem scanWord_between (position : Nat) (s : List Char) :
    RefusedBetween position (position + s.length) (scanWord position s) := by
  fun_induction scanWord position s with
  | case1 => exact .ok _
  | case2 => exact .ok _
  | case3 position c rest _ _ e hb =>
    exact ((scanBracket_between (Nat.le_succ position) rest).error hb).mono (Nat.le_refl _)
      (add_length_cons position c rest).le
  | case4 position c rest _ _ stop rest' hb ih =>
    have hbracket := (isBehind_scanBracket hb).cons c
    exact ih.mono hbracket.le hbracket.length_add.le
  | case5 position c rest _ _ ih =>
    exact ih.mono (Nat.le_succ _) (add_length_cons position c rest).le

theorem scanToken_between (position : Nat) (c : Char) (rest : List Char) :
    RefusedBetween position (position + (c :: rest).length) (scanToken position c rest) := by
  unfold scanToken
  rw [← add_length_cons]
  split
  · exact .ok _
  · exact .ok _
  · exact .ok _
  · exact .ok _
  · split
    · exact .ok _
    · split
      · exact (scanQuoted_between (Nat.le_succ _) [] _).bind_ok _
      · split
        · exact ((scanItems_between [] _ _).bind_ok _).mono (Nat.le_succ _) (Nat.le_refl _)
        · exact ((scanWord_between _ _).bind_ok _).mono (Nat.le_succ _) (Nat.le_refl _)

/-! ## 4. One token -/

theorem scanToken_quoted {quote : Char} (h : isQuote quote = true) (position : Nat)
    (s : List Char) : scanToken position quote s = do
      let q ← scanQuoted quote position [] (position + 1) s
      return ⟨.quoted (String.ofList q.value), q.position, q.rest⟩ := by
  rw [isQuote, Bool.or_eq_true, beq_iff_eq, beq_iff_eq] at h
  rcases h with rfl | rfl
  all_goals
    rw [scanToken, if_neg (by simp), if_pos (by decide)]
    all_goals simp

/-- A token that ends before `rest` ends before `rest'` as well. -/
structure Lexeme.EndsLike (l : Lexeme) (rest rest' : List Char) : Prop where
  bang : l = .not → rest'.head? ≠ some '='
  word : ∀ w, l = .word w → Query.EndsLike rest rest'

/-- What is scanned from a character on is written in what the scanner has gone over, and the scanner
goes over the same wherever the token ends as it did. -/
def IsScannedAs (position : Nat) (c : Char) (s : List Char) (r : Scanned Lexeme) : Prop :=
  ∃ front, s = front ++ r.rest ∧ r.position = position + (c :: front).length ∧
    r.value.IsWritten (String.ofList (c :: front)) ∧
    ∀ position rest, r.value.EndsLike r.rest rest → scanToken position c (front ++ rest) =
      .ok ⟨r.value, position + (c :: front).length, rest⟩

section token

variable {position : Nat} {c : Char} {s : List Char}

theorem isScannedAs_quoted (hquote : isQuote c = true) {q : Scanned (List Char)}
    (h : scanQuoted c position [] (position + 1) s = .ok q) :
    IsScannedAs position c s ⟨.quoted (String.ofList q.value), q.position, q.rest⟩ := by
  obtain ⟨pieces, hpieces, hs, hvalue⟩ := exists_pieces_of_scanQuoted h
  obtain ⟨front, hfront, hposition, hframe⟩ := scanQuoted_frame h
  -- what was gone over are the pieces and the closing quote
  have hclosed : front = pieces.flatMap QuotedPiece.text ++ [c] := by
    have hsame := hfront.symm.trans hs
    rwa [← List.singleton_append, ← List.append_assoc, List.append_cancel_right_eq] at hsame
  refine ⟨front, hfront, hposition.trans (add_length_cons position c front), ?_,
    fun position rest _ => ?_⟩
  · rw [hvalue, hclosed]
    exact .quoted hquote hpieces
  · rw [scanToken_quoted hquote, hframe, add_length_cons position c front]
    rfl

theorem isScannedAs_set {items : Scanned (List String)}
    (h : scanItems [] (position + 1) s = .ok items) :
    IsScannedAs position '[' s
      ⟨.set (sourceSpan position items.position ('[' :: s)) items.value, items.position,
        items.rest⟩ := by
  obtain ⟨front, rfl, hframe⟩ := scanItems_frame h
  have hposition : items.position = position + 1 + front.length := congrArg Scanned.position
    (Except.ok.inj (h.symm.trans (hframe (position + 1) items.rest)))
  have htext : ∀ position rest, sourceSpan position (position + ('[' :: front).length)
      ('[' :: (front ++ rest)) = String.ofList ('[' :: front) :=
    fun position rest => sourceSpan_append position ('[' :: front) rest
  rw [add_length_cons position '[' front] at hposition
  refine ⟨front, rfl, hposition, ?_, fun position' rest _ => ?_⟩
  · rw [hposition, htext]
    exact .set
  · rw [scanToken_set, hframe, add_length_cons position' '[' front, hposition, htext]
    show Except.ok (⟨.set (sourceSpan position' _ _) _, _, _⟩ : Scanned Lexeme) = _
    rw [htext]

theorem isScannedAs_word (hstart : startsWord c s = true) {word : Nat × List Char}
    (h : scanWord (position + 1) s = .ok word) :
    IsScannedAs position c s
      ⟨.word (sourceSpan position word.1 (c :: s)), word.1, word.2⟩ := by
  obtain ⟨stop, rest⟩ := word
  obtain ⟨front, rfl, hposition, hend, hframe⟩ := scanWord_frame h
  have htext : ∀ position rest, sourceSpan position (position + (c :: front).length)
      (c :: (front ++ rest)) = String.ofList (c :: front) :=
    fun position rest => sourceSpan_append position (c :: front) rest
  obtain rfl : stop = position + (c :: front).length :=
    hposition.trans (add_length_cons position c front)
  refine ⟨front, rfl, rfl, ?_, fun position' rest' hrest => ?_⟩
  · rw [htext]
    exact .word (by simp)
  · have hlike := hrest.word _ rfl
    rw [scanToken_word (startsWord_frame hstart hend hlike), hframe _ _ hlike,
      add_length_cons position' c front, htext]
    show Except.ok (⟨.word (sourceSpan position' _ _), _, _⟩ : Scanned Lexeme) = _
    rw [htext]

theorem isScannedAs_of_scanToken {r : Scanned Lexeme} (h : scanToken position c s = .ok r) :
    IsScannedAs position c s r := by
  have htoken := h
  -- signs, a quoted value, a set and a word, in the order in which the scanner looks for them
  unfold scanToken at h
  split at h
  · cases h
    exact ⟨['&'], rfl, rfl, .sign (l := .and) (by decide), fun _ _ _ => rfl⟩
  · cases h
    exact ⟨['|'], rfl, rfl, .sign (l := .or) (by decide), fun _ _ _ => rfl⟩
  · cases h
    exact ⟨[], rfl, rfl, .sign (l := .openParen) (by decide), fun _ _ _ => rfl⟩
  · cases h
    exact ⟨[], rfl, rfl, .sign (l := .closeParen) (by decide), fun _ _ _ => rfl⟩
  · split at h
    · next hbang =>
      rw [Bool.and_eq_true, beq_iff_eq, bne_iff_ne] at hbang
      rw [hbang.1]
      cases h
      exact ⟨[], rfl, rfl, .sign (l := .not) (by decide),
        fun position rest hrest => Lexes.scanToken_bang (hrest.bang rfl)⟩
    · split at h
      · next hquote =>
        obtain ⟨q, hq, h⟩ := bind_eq_ok.1 h
        cases h
        exact isScannedAs_quoted hquote hq
      · split at h
        · next hbracket =>
          obtain ⟨items, hitems, h⟩ := bind_eq_ok.1 h
          cases h
          rw [beq_iff_eq] at hbracket
          subst hbracket
          exact isScannedAs_set hitems
        · obtain ⟨word, hword, h⟩ := bind_eq_ok.1 h
          cases h
          exact isScannedAs_word (startsWord_of_scanToken htoken rfl) hword

end token

theorem head?_ne_of_scanToken_not {position : Nat} {c : Char} {s : List Char} {r : Scanned Lexeme}
    (h : scanToken position c s = .ok r) (hnot : r.value = .not) : r.rest.head? ≠ some '=' := by
  unfold scanToken at h
  split at h
  · cases h; cases hnot
  · cases h; cases hnot
  · cases h; cases hnot
  · cases h; cases hnot
  · split at h
    · next hbang =>
      cases h
      rw [Bool.and_eq_true, bne_iff_ne] at hbang
      exact hbang.2
    · split at h
      · obtain ⟨q, -, h⟩ := bind_eq_ok.1 h
        cases h; cases hnot
      · split at h
        · obtain ⟨items, -, h⟩ := bind_eq_ok.1 h
          cases h; cases hnot
        · obtain ⟨word, -, h⟩ := bind_eq_ok.1 h
          cases h; cases hnot

/-- A scanned token ends before any text before which all tokens end. -/
theorem endsLike_of_scanToken {position : Nat} {c : Char} {s rest : List Char} {r : Scanned Lexeme}
    (h : scanToken position c s = .ok r) (hrest : EndsLike r.rest rest) :
    r.value.EndsLike r.rest rest where
  bang hnot := by
    rcases hrest with hbreak | ⟨hhead, -⟩
    · exact hbreak.head?_ne (.inr (.inr rfl))
    · exact hhead ▸ head?_ne_of_scanToken_not h hnot
  word _ _ := hrest

/-- A token is written in the text that was gone over, and this text is gone over again wherever the
token ends as it did. -/
theorem frame_of_scanToken {position : Nat} {c : Char} {text rest : List Char} {l : Lexeme}
    (h : scanToken position c (text ++ rest) = .ok ⟨l, position + (c :: text).length, rest⟩) :
    l.IsWritten (String.ofList (c :: text)) ∧
      ∀ position rest', l.EndsLike rest rest' → scanToken position c (text ++ rest') =
        .ok ⟨l, position + (c :: text).length, rest'⟩ := by
  obtain ⟨front, hfront, -, hframe⟩ := isScannedAs_of_scanToken h
  obtain rfl : text = front := List.append_cancel_right hfront
  exact hframe

/-! ## 5. All tokens -/

/-- How a text is scanned: behind blanks there is the end, or the text of a token and then the rest,
which is scanned from the token's end on. -/
inductive Scans : Nat → List Char → List Token → Prop
  | finish {position : Nat} {gap : List Char} (hgap : ∀ c ∈ gap, isSeparator c = true) :
      Scans position gap [⟨.finish, position + gap.length⟩]
  | token {position : Nat} {gap : List Char} {c : Char} {text rest : List Char} {l : Lexeme}
      {ts : List Token} (hgap : ∀ c ∈ gap, isSeparator c = true) (hc : isSeparator c = false)
      (htoken : scanToken (position + gap.length) c (text ++ rest) =
        .ok ⟨l, position + gap.length + (c :: text).length, rest⟩)
      (hrest : Scans (position + gap.length + (c :: text).length) rest ts) :
      Scans position (gap ++ c :: (text ++ rest)) (⟨l, position + gap.length⟩ :: ts)

theorem scans_of_scanTokens {position : Nat} {s : List Char} {ts : List Token}
    (h : scanTokens position s = .ok ts) : Scans position s ts := by
  fun_induction scanTokens position s generalizing ts with
  | case1 position s stop hs =>
    cases h
    obtain ⟨gap, rfl, rfl, hgap⟩ := exists_gap hs
    rw [List.append_nil]
    exact .finish hgap
  | case2 => cases h
  | case3 => cases h
  | case4 position s start c rest hs r hr tokens htokens ih =>
    cases h
    have hc := isSeparator_of_skipBlanks hs
    obtain ⟨gap, rfl, rfl, hgap⟩ := exists_gap hs
    obtain ⟨text, rfl, hstop, -⟩ := isScannedAs_of_scanToken hr
    obtain ⟨l, stop, rest⟩ := r
    cases hstop
    exact .token hgap hc hr (ih htokens)

theorem Scans.scanTokens {position : Nat} {s : List Char} {ts : List Token}
    (h : Scans position s ts) : Query.scanTokens position s = .ok ts := by
  induction h with
  | finish hgap => exact scanTokens_gap hgap _
  | token hgap hc htoken _ ih =>
    rw [scanTokens_append hgap]
    exact scanTokens_token hc htoken ih

theorem scanTokens_between (position : Nat) (s : List Char) :
    RefusedBetween position (position + s.length) (scanTokens position s) := by
  fun_induction scanTokens position s with
  | case1 => exact .ok _
  | case2 position s start c rest hs e ht =>
    have hblanks := isBehind_skipBlanks hs
    exact ((scanToken_between start c rest).error ht).mono hblanks.le hblanks.length_add.le
  | case3 position s start c rest hs r hr e hrest ih =>
    obtain ⟨front, hfront, hposition, -⟩ := isScannedAs_of_scanToken hr
    have hbehind : IsBehind position s r.position r.rest := (isBehind_skipBlanks hs).trans
      ⟨c :: front, by rw [hfront, List.cons_append], hposition⟩
    exact (ih.error hrest).mono hbehind.le hbehind.length_add.le
  | case4 => exact .ok _

section spans

variable {query gap rest : List Char} {position : Nat}

theorem IsBehind.append {front : List Char} (h : IsBehind 0 query position (front ++ rest)) :
    IsBehind 0 query (position + front.length) rest :=
  h.trans ⟨front, rfl, rfl⟩

/-- The characters that are skipped are blanks. -/
theorem isSeparator_of_gap {i : Nat} {c : Char} (h : IsBehind 0 query position (gap ++ rest))
    (hgap : ∀ c ∈ gap, isSeparator c = true) (hi : position ≤ i) (hstart : i < position + gap.length)
    (hc : query[i]? = some c) : isSeparator c = true := by
  obtain ⟨before, rfl, rfl⟩ := h
  rw [Nat.zero_add] at hi hstart
  rw [List.getElem?_append_right hi, List.getElem?_append_left (by omega)] at hc
  exact hgap c (List.mem_of_getElem? hc)

theorem losslessFrom_finish (h : IsBehind 0 query position gap)
    (hgap : ∀ c ∈ gap, isSeparator c = true) :
    LosslessFrom query position [⟨.finish, position + gap.length⟩]
      [⟨position + gap.length, position + gap.length⟩] where
  tokens := by
    refine .cons ⟨rfl, h.length.le, .inr rfl, ?_⟩ .nil
    rw [Span.text, sourceSpan, Nat.sub_self, List.take_zero]
    exact .finish
  inside := List.forall_mem_singleton.2 (Nat.le_add_right _ _)
  ordered := List.pairwise_singleton _ _
  blanks := by
    intro i c hi hc _
    have hlt := (List.getElem?_eq_some_iff.1 hc).1
    rw [← h.length] at hlt
    rw [← List.append_nil gap] at h
    exact isSeparator_of_gap h hgap hi hlt hc

theorem standsFor_of_scanToken {c : Char} {text : List Char} {l : Lexeme}
    (h : IsBehind 0 query position (c :: (text ++ rest)))
    (htoken : scanToken position c (text ++ rest) =
      .ok ⟨l, position + (c :: text).length, rest⟩) :
    Token.StandsFor query ⟨l, position⟩ ⟨position, position + (c :: text).length⟩ where
  start := rfl
  stop := Nat.le.intro (IsBehind.append h).length
  filled := .inl (Nat.lt_add_of_pos_right (Nat.succ_pos _))
  written := by
    rw [Span.text, h.drop, ← List.cons_append, sourceSpan_append]
    exact (frame_of_scanToken htoken).1

theorem losslessFrom_cons {stop : Nat} {t : Token} {ts : List Token} {spans : List Span}
    (h : IsBehind 0 query position (gap ++ rest)) (hgap : ∀ c ∈ gap, isSeparator c = true)
    (ht : t.StandsFor query ⟨position + gap.length, stop⟩) (hfilled : position + gap.length < stop)
    (hrest : LosslessFrom query stop ts spans) :
    LosslessFrom query position (t :: ts) (⟨position + gap.length, stop⟩ :: spans) where
  tokens := .cons ht hrest.tokens
  inside := by
    refine List.forall_mem_cons.2 ⟨Nat.le_add_right _ _, fun span hspan => ?_⟩
    have hinside := hrest.inside span hspan
    omega
  ordered := by
    refine List.pairwise_cons.2 ⟨fun span hspan => ?_, hrest.ordered⟩
    have hinside := hrest.inside span hspan
    exact ⟨Nat.lt_of_lt_of_le hfilled hinside, hinside⟩
  blanks := by
    intro i c hi hc houtside
    rw [List.forall_mem_cons] at houtside
    -- before the token, in the token, or behind it
    by_cases hstart : i < position + gap.length
    · exact isSeparator_of_gap h hgap hi hstart hc
    · have hstop : stop ≤ i := by
        have hfirst := houtside.1
        simp only at hfirst
        omega
      exact hrest.blanks i c hstop hc houtside.2

theorem Scans.exists_spans {s : List Char} {ts : List Token} (h : Scans position s ts)
    (hbehind : IsBehind 0 query position s) : ∃ spans, LosslessFrom query position ts spans := by
  -- what is in front of the position was gone over, so the spans are those of the query itself
  induction h with
  | finish hgap => exact ⟨_, losslessFrom_finish hbehind hgap⟩
  | @token position gap c text rest l ts hgap hc htoken _ ih =>
    have hstart := hbehind.append
    have ht := standsFor_of_scanToken hstart htoken
    have hfilled : position + gap.length < position + gap.length + (c :: text).length :=
      Nat.lt_add_of_pos_right (Nat.succ_pos _)
    obtain ⟨spans, hspans⟩ := ih (IsBehind.append hstart)
    exact ⟨_, losslessFrom_cons hbehind hgap ht hfilled hspans⟩

end spans

theorem Scans.getLast? {position : Nat} {s : List Char} {ts : List Token}
    (h : Scans position s ts) : ts.getLast? = some ⟨.finish, position + s.length⟩ := by
  induction h with
  | finish => rfl
  | @token position gap c text rest l ts _ _ _ _ ih =>
    have hlength : position + gap.length + (c :: text).length + rest.length =
        position + (gap ++ c :: (text ++ rest)).length := by
      simp only [List.length_append, List.length_cons]
      omega
    rw [List.getLast?_cons, ih, hlength]
    rfl

theorem exists_spans_of_tokenize {query : String} {ts : List Token} (h : tokenize query = .ok ts) :
    ∃ spans, LosslessFrom query.toList 0 ts spans :=
  (scans_of_scanTokens h).exists_spans (.refl 0 _)

theorem getLast?_of_tokenize {query : String} {ts : List Token} (h : tokenize query = .ok ts) :
    ts.getLast? = some ⟨.finish, query.length⟩ := by
  have hlast := (scans_of_scanTokens h).getLast?
  rwa [Nat.zero_add, String.length_toList] at hlast

/-- Each token of a query starts behind the one before it. -/
theorem pairwise_of_tokenize {query : String} {ts : List Token} (h : tokenize query = .ok ts) :
    ts.Pairwise fun t u => t.position < u.position := by
  obtain ⟨spans, hspans⟩ := exists_spans_of_tokenize h
  have hstarts : ts.map Token.position = spans.map Span.start := by
    have htokens := hspans.tokens
    clear h hspans
    induction htokens with
    | nil => rfl
    | cons ht _ ih => rw [List.map_cons, List.map_cons, ← ht.start, ih]
  have hordered := hspans.ordered.imp And.left
  rw [← List.pairwise_map (f := Span.start) (R := (· < ·)), ← hstarts, List.pairwise_map] at hordered
  exact hordered

theorem dropLast_of_tokenize {query : String} {ts : List Token}
    (h : tokenize query = .ok ts) : ts = ts.dropLast ++ [⟨.finish, query.length⟩] :=
  (List.dropLast_append_getLast? _ (getLast?_of_tokenize h)).symm

theorem position_le_of_tokenize {query : String} {ts : List Token} (h : tokenize query = .ok ts)
    {t : Token} (ht : t ∈ ts) : t.position ≤ query.length := by
  have hordered := pairwise_of_tokenize h
  rw [dropLast_of_tokenize h] at ht hordered
  rcases List.mem_append.1 ht with ht | ht
  · exact ((List.pairwise_append.1 hordered).2.2 t ht _ List.mem_cons_self).le
  · rw [List.mem_singleton] at ht
    rw [ht]

/-- The text of a word stands in the query where the word starts. -/
theorem prefix_of_word {query : String} {ts : List Token} (h : tokenize query = .ok ts) {w : String}
    {position : Nat} (hw : ⟨.word w, position⟩ ∈ ts) :
    w.toList <+: query.toList.drop position := by
  obtain ⟨spans, hspans⟩ := exists_spans_of_tokenize h
  have hall := hspans.tokens.imp fun t span ht => And.intro (Exists.intro span ht) ht
  obtain ⟨span, hspan⟩ := ((List.forall₂_and_left _ _).1 hall).1 _ hw
  have hstart : span.start = position := hspan.start
  have htext : span.text query.toList = w := hspan.written.eq_of_word
  rw [← htext, Span.text, sourceSpan, String.toList_ofList, hstart]
  exact List.take_prefix _ _

/-- The tokens of a query stand for parts of it, one after the other, in which they are written; all
characters outside of these parts are blanks, and the last token is the end of the query. -/
theorem tokenize_isLossless {query : String} {ts : List Token} (h : tokenize query = .ok ts) :
    (∃ spans, LosslessFrom query.toList 0 ts spans) ∧
      ts.getLast? = some ⟨.finish, query.length⟩ :=
  ⟨exists_spans_of_tokenize h, getLast?_of_tokenize h⟩

/-- A bracket in quotes in a set and in a word, tokens that touch each other, and blanks of all
kinds. -/
theorem tokenize_isLossless_touching :
    let query := "\tname in [a,'b]' ]&&!(yaml:.x[\"]\"] != \"\\n\")\r\n"
    let ts : List Token := [⟨.word "name", 1⟩, ⟨.word "in", 6⟩, ⟨.set "[a,'b]' ]" ["a", "b]"], 9⟩,
      ⟨.and, 18⟩, ⟨.not, 20⟩, ⟨.openParen, 21⟩, ⟨.word "yaml:.x[\"]\"]", 22⟩, ⟨.word "!=", 35⟩,
      ⟨.quoted "\n", 38⟩, ⟨.closeParen, 42⟩, ⟨.finish, 45⟩]
    tokenize query = .ok ts ∧ (∃ spans, LosslessFrom query.toList 0 ts spans) ∧
      query.length = 45 := by
  intro query ts
  have htokens : tokenize query = .ok ts := by decide +kernel
  obtain ⟨hspans, hlast⟩ := tokenize_isLossless htokens
  have hlength : 45 = query.length := congrArg Token.position (Option.some.inj hlast)
  exact ⟨htokens, hspans, hlength.symm⟩

end FileQuery.Query
