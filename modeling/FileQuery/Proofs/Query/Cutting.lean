import FileQuery.Proofs.Query.Spans

/-!
# Cutting a query and writing on

Before each of its tokens a query can be cut: the front has the tokens before the cut.  A token that is
written behind the front is the next token, if blanks stand between the two.  Without blanks it may
become a part of the last word of the front, or the two make up a sign; the scanner does not refuse
that at the cut or before it.
-/

namespace FileQuery.Query

/-! ## 1. Cutting a query before a token -/

theorem scanToken_lone_sign {c : Char} (hc : c = '&' ∨ c = '|') (position : Nat) :
    ∃ w, scanToken position c [] = .ok ⟨.word w, position + 1, []⟩ := by
  refine ⟨sourceSpan position (position + 1) [c], ?_⟩
  rcases hc with rfl | rfl
  all_goals
    rw [scanToken_word (by decide), scanWord]
    rfl

theorem scanToken_sign {c : Char} (hc : c = '&' ∨ c = '|') (position : Nat) (rest : List Char) :
    ∃ l, (∀ w, l ≠ .word w) ∧ scanToken position c (c :: rest) = .ok ⟨l, position + 2, rest⟩ := by
  rcases hc with rfl | rfl
  · exact ⟨.and, nofun, rfl⟩
  · exact ⟨.or, nofun, rfl⟩

/-- Two sign characters in a row are one token, so no token starts between them. -/
theorem head?_ne_of_sign {position : Nat} {c : Char} {rest : List Char} {before after : List Token}
    {t stop : Token} (hc : c = '&' ∨ c = '|')
    (h : scanTokens position (c :: rest) = .ok (before ++ t :: after))
    (hfront : scanTokens position [c] = .ok (before ++ [stop])) : rest.head? ≠ some c := by
  intro hhead
  obtain ⟨rest, rfl⟩ := List.head?_eq_some_iff.1 hhead
  have hblank : isSeparator c = false := by rcases hc with rfl | rfl <;> rfl
  obtain ⟨w, hw⟩ := scanToken_lone_sign hc position
  obtain ⟨l, hl, hsign⟩ := scanToken_sign hc position rest
  have hword := hfront.symm.trans (scanTokens_token hblank hw (scanTokens_nil _))
  have hfirst : before ++ [stop] = [⟨.word w, position⟩] ++ [⟨.finish, position + 1⟩] :=
    Except.ok.inj hword
  have hbefore : before = [⟨.word w, position⟩] := (List.append_inj' hfirst rfl).1
  rw [scanTokens_eq, skipBlanks_of_head hblank, hbefore] at h
  simp only [hsign] at h
  split at h
  · cases h
  · cases h
    exact hl w rfl

/-- A token that ends before a text ends before each front of it whose tokens are those of the text. -/
theorem endsLike_front {position : Nat} {front rest : List Char} {before after : List Token}
    {t stop : Token} (h : scanTokens position (front ++ rest) = .ok (before ++ t :: after))
    (hfront : scanTokens position front = .ok (before ++ [stop])) :
    EndsLike (front ++ rest) front := by
  match front with
  | [] => exact .inl .nil
  | c :: d :: front =>
    refine .inr ⟨rfl, ?_⟩
    rw [List.cons_append, endsWord_cons, endsWord_cons]
    rfl
  | [c] =>
    refine .inr ⟨rfl, ?_⟩
    rw [List.singleton_append, endsWord_cons, endsWord_cons, List.head?_nil]
    congr 1
    rw [Bool.eq_iff_iff]
    simp only [Bool.and_eq_true, Bool.or_eq_true, beq_iff_eq, reduceCtorEq, and_false, false_iff,
      not_and]
    exact fun hc => head?_ne_of_sign hc h hfront

/-- Where a token starts a text can be cut: the front has the tokens before, and the rest has the
token and those after it. -/
theorem Scans.split {position : Nat} {s : List Char} {before after : List Token} {t : Token}
    (h : Scans position s (before ++ t :: after)) :
    ∃ front rest, s = front ++ rest ∧ t.position = position + front.length ∧
      Query.scanTokens position front = .ok (before ++ [⟨.finish, t.position⟩]) ∧
      Query.scanTokens t.position rest = .ok (t :: after) := by
  -- along the scanner; each token is scanned again before what is left of the front
  generalize hts : before ++ t :: after = ts at h
  induction h generalizing before with
  | @finish position gap hgap =>
    cases before with
    | cons u before => simp at hts
    | nil =>
      cases hts
      exact ⟨gap, [], (List.append_nil _).symm, rfl, scanTokens_gap hgap position,
        scanTokens_nil _⟩
  | @token position gap c text rest l ts hgap hc htoken hrest ih =>
    cases before with
    | nil =>
      cases hts
      exact ⟨gap, c :: (text ++ rest), rfl, rfl, scanTokens_gap hgap position,
        scanTokens_token hc htoken hrest.scanTokens⟩
    | cons u before =>
      rw [List.cons_append, List.cons_eq_cons] at hts
      obtain ⟨rfl, rfl⟩ := hts
      obtain ⟨front, rest', rfl, hposition, hfront, hafter⟩ := ih rfl
      have hlike : EndsLike (front ++ rest') front := endsLike_front hrest.scanTokens hfront
      have htoken' := (frame_of_scanToken htoken).2 (position + gap.length) front
        (endsLike_of_scanToken htoken hlike)
      refine ⟨gap ++ c :: (text ++ front), rest', by simp, ?_, ?_, hafter⟩
      · rw [hposition]
        simp only [List.length_append, List.length_cons]
        omega
      · rw [scanTokens_append hgap]
        exact scanTokens_token hc htoken' hfront

/-! ## 2. Writing on behind blanks -/

theorem endsLike_append {s rest : List Char} (hrest : Breaks rest) : EndsLike s (s ++ rest) := by
  match s with
  | [] => exact .inl hrest
  | c :: d :: s =>
    refine .inr ⟨rfl, ?_⟩
    rw [List.cons_append, endsWord_cons, endsWord_cons]
    rfl
  | [c] =>
    refine .inr ⟨rfl, ?_⟩
    rw [List.singleton_append, endsWord_cons, endsWord_cons, hrest.double, Breaks.nil.double]

/-- Tokens are scanned alike before a break. -/
theorem Scans.append {position : Nat} {s rest : List Char} {before us : List Token}
    {stop : Token} (h : Scans position s (before ++ [stop])) (hrest : Breaks rest)
    (hus : Query.scanTokens (position + s.length) rest = .ok us) :
    Query.scanTokens position (s ++ rest) = .ok (before ++ us) := by
  generalize hts : before ++ [stop] = ts at h
  induction h generalizing before with
  | @finish position gap hgap =>
    cases before with
    | cons u before => simp at hts
    | nil => rw [scanTokens_append hgap, hus, List.nil_append]
  | @token position gap c text rest' l ts hgap hc htoken hrest' ih =>
    have hlength : position + (gap ++ c :: (text ++ rest')).length =
        position + gap.length + (c :: text).length + rest'.length := by
      simp only [List.length_append, List.length_cons]
      omega
    cases before with
    | nil =>
      cases hts
      exact absurd rfl (ended_of_scanTokens hrest'.scanTokens).ne_nil
    | cons u before =>
      rw [List.cons_append, List.cons_eq_cons] at hts
      obtain ⟨rfl, rfl⟩ := hts
      -- a token is scanned alike whatever follows, as long as it ends there
      have htoken' := (frame_of_scanToken htoken).2 (position + gap.length) (rest' ++ rest)
        (endsLike_of_scanToken htoken (endsLike_append hrest))
      rw [List.append_assoc, scanTokens_append hgap, List.cons_append, List.append_assoc]
      exact scanTokens_token hc htoken' (ih (hlength ▸ hus) rfl)

/-! ## 3. The items of a set as brackets of a word -/

theorem plain_of_isSeparator {c : Char} (h : isSeparator c = true) :
    isQuote c = false ∧ c ≠ ']' := by
  simp only [isSeparator, Bool.or_eq_true, beq_iff_eq] at h
  rcases h with ((rfl | rfl) | rfl) | rfl <;> decide

/-- Brackets in a word are passed over item by item if they hold the items of a set. -/
theorem scanBracket_item {start position : Nat} {s : List Char} {item : Scanned (List Char)}
    (h : scanItem position s = .ok item) :
    scanBracket start position s = scanBracket start item.position item.rest := by
  unfold scanItem at h
  split at h
  · cases h
  · next c rest =>
    split at h
    · next hquote => exact scanBracket_quoted hquote h
    · dsimp only at h
      split at h
      · cases h
      · cases h
        -- an item without quotes ends before quotes and brackets
        have hplain : ∀ d ∈ (c :: rest).takeWhile (fun d => !endsItem d),
            isQuote d = false ∧ d ≠ ']' := by
          intro d hd
          have hitem := List.mem_takeWhile_imp hd
          simp only [endsItem, Bool.not_eq_true', Bool.or_eq_false_iff, beq_eq_false_iff_ne] at hitem
          exact ⟨hitem.2, hitem.1.2⟩
        have hwhole := List.prefix_iff_eq_append.1 (List.takeWhile_prefix (l := c :: rest)
          fun d => !endsItem d)
        conv_lhs => rw [← hwhole]
        exact scanBracket_append hplain start position _

theorem scanBracket_gap {start position stop : Nat} {s rest : List Char}
    (h : skipBlanks position s = (stop, rest)) :
    scanBracket start position s = scanBracket start stop rest := by
  obtain ⟨gap, rfl, rfl, hgap⟩ := exists_gap h
  exact scanBracket_append (fun c hc => plain_of_isSeparator (hgap c hc)) start position rest

/-- The items of a set, in the brackets of a word, are passed over. -/
theorem scanBracket_items {start position : Nat} {items : List String} {s : List Char}
    {r : Scanned (List String)} (h : scanItems items position s = .ok r) :
    scanBracket start position s = .ok (r.position, r.rest) := by
  -- item by item; what ends an item ends the brackets or is a comma
  fun_induction scanItems items position s with
  | case1 => cases h
  | case2 items position s stop c rest hs hc =>
    cases h
    rw [beq_iff_eq] at hc
    rw [scanBracket_gap hs, hc]
    exact scanBracket_close start stop rest
  | case3 => cases h
  | case4 => cases h
  | case5 items position s start c rest hs hc item hi stop d rest' ha hd ih =>
    rw [beq_iff_eq] at hd
    subst hd
    have hcomma : ∀ c ∈ [','], isQuote c = false ∧ c ≠ ']' :=
      List.forall_mem_singleton.2 (by decide)
    rw [scanBracket_gap hs, scanBracket_item hi, scanBracket_gap ha]
    exact (scanBracket_append hcomma _ _ _).trans (ih h)
  | case6 items position s start c rest hs hc item hi stop d rest' ha hd hclose =>
    cases h
    rw [beq_iff_eq] at hclose
    subst hclose
    rw [scanBracket_gap hs, scanBracket_item hi, scanBracket_gap ha]
    exact scanBracket_close _ _ _
  | case7 => cases h

/-! ## 4. A token right behind a word -/

theorem lt_of_scanWord {position : Nat} {s : List Char} {r : Nat × List Char}
    (h : scanWord (position + 1) s = .ok r) : position < r.1 := by
  obtain ⟨front, -, hstop, -⟩ := scanWord_frame h
  omega

/-- A token that does not end words goes on as a word behind its first character. -/
theorem exists_scanWord_tail {position : Nat} {c : Char} {s : List Char} {r : Scanned Lexeme}
    (h : scanToken position c s = .ok r) (hend : endsWord (c :: s) = false) (hc : c ≠ '[')
    (hrest : r.rest = []) : ∃ w, scanWord (position + 1) s = .ok w := by
  unfold scanToken at h
  split at h
  · cases hend
  · cases hend
  · simp [endsWord_cons] at hend
  · simp [endsWord_cons] at hend
  · split at h
    · cases h
      obtain rfl : s = [] := hrest
      exact ⟨_, scanWord_end rfl _⟩
    · split at h
      · next hquote => simp [endsWord_cons, hquote] at hend
      · rw [if_neg (by simpa using hc)] at h
        obtain ⟨w, hw, -⟩ := bind_eq_ok.1 h
        exact ⟨w, hw⟩

/-- A text that spells a token ends a word before it, or belongs to the word up to some place in it.
-/
theorem exists_scanWord {s : List Char} {l : Lexeme} (hs : Spells s l) (position : Nat) :
    ∃ w, scanWord position s = .ok w ∧ (w = (position, s) ∨ position < w.1) := by
  obtain ⟨c, cs, rfl, -, hscan⟩ := hs
  cases hend : endsWord (c :: cs) with
  | true => exact ⟨_, scanWord_end hend position, .inl rfl⟩
  | false =>
    have htoken := hscan position [] .nil
    rw [List.append_nil] at htoken
    by_cases hbracket : c = '['
    · -- the items of a set make up brackets of the word
      subst hbracket
      rw [scanToken_set] at htoken
      obtain ⟨items, hitems, h⟩ := bind_eq_ok.1 htoken
      have hrest : items.rest = [] := congrArg Scanned.rest (Except.ok.inj h)
      refine ⟨(items.position, []), ?_, .inr (isBehind_scanItems hitems).le⟩
      rw [scanWord_bracket (scanBracket_items hitems), hrest]
      exact scanWord_end rfl _
    · obtain ⟨w, hw⟩ := exists_scanWord_tail htoken hend hbracket rfl
      exact ⟨w, (scanWord_plain hend hbracket position).trans hw, .inr (lt_of_scanWord hw)⟩

/-- Where a word is left that has been written together with what follows it: before that, in it, or
one character earlier, if the two make up a sign of two equal characters. -/
inductive LeftAt (position : Nat) (s : List Char) : Nat × List Char → Prop
  | before : LeftAt position s (position, s)
  | inside {stop : Nat} {rest : List Char} : position < stop → LeftAt position s (stop, rest)
  | sign {c : Char} {rest : List Char} {stop : Nat} : c = '&' ∨ c = '|' → s = c :: rest →
      stop + 1 = position → LeftAt position s (stop, c :: s)

/-- What comes behind a word that has been written together with a token is not refused before the
end of what was the word. -/
theorem LeftAt.lt_of_error {position : Nat} {s : List Char} {w : Nat × List Char} {l : Lexeme}
    (h : LeftAt position s w) (hs : Spells s l) {e : SyntaxError}
    (he : scanTokens w.1 w.2 = .error e) : position < e.position := by
  cases h with
  | before =>
    rw [hs.scanTokens] at he
    cases he
  | inside hstop => exact Nat.lt_of_lt_of_le hstop (scanTokens_between _ _ e he).1
  | @sign c rest stop hc hrest hposition =>
    subst hrest
    obtain ⟨l, -, hsign⟩ := scanToken_sign hc stop rest
    have hblank : isSeparator c = false := by rcases hc with rfl | rfl <;> rfl
    -- a sign that is left over is a token itself, and the error is behind it
    rw [scanTokens_eq, skipBlanks_of_head hblank] at he
    simp only [hsign] at he
    split at he
    · next e' he' =>
      cases he
      have hlow := (scanTokens_between _ _ _ he').1
      omega
    · cases he

/-- A word that goes on past a character ends before it with more text behind it only where the two
make up a sign. -/
theorem sign_of_endsWord {c : Char} {s t : List Char} (h : endsWord (c :: s) = false)
    (h' : endsWord (c :: (s ++ t)) = true) : s = [] ∧ (c = '&' ∨ c = '|') ∧ t.head? = some c := by
  rw [endsWord_cons, Bool.or_eq_false_iff] at h
  rw [endsWord_cons, h.2, Bool.or_false, Bool.and_eq_true, Bool.or_eq_true, beq_iff_eq, beq_iff_eq,
    beq_iff_eq] at h'
  cases s with
  | nil => exact ⟨rfl, h'⟩
  | cons d s =>
    have hsign : ((c == '&' || c == '|') && (d :: s).head? == some c) = true := by
      simpa using h'
    rw [h.1] at hsign
    cases hsign

/-- What starts a word starts none with more text behind it only where the two make up a sign. -/
theorem sign_of_startsWord {c : Char} {s t : List Char} (h : startsWord c s = true)
    (h' : startsWord c (s ++ t) = false) : s = [] ∧ (c = '&' ∨ c = '|') ∧ t.head? = some c := by
  cases s with
  | cons d s => exact absurd (h.symm.trans h') (by decide)
  | nil =>
    have hbang : c ≠ '!' := by
      rintro rfl
      cases h
    refine ⟨rfl, ?_⟩
    simp only [startsWord, List.head?_nil, List.nil_append] at h h'
    revert h h'
    simp +contextual [hbang, or_iff_not_imp_left]

/-- A word that goes to the end of a text, where a token is written right behind the text. -/
theorem exists_leftAt {position : Nat} {s t : List Char} {l : Lexeme} {stop : Nat}
    (h : scanWord position s = .ok (stop, [])) (ht : Spells t l) :
    ∃ w, scanWord position (s ++ t) = .ok w ∧ LeftAt (position + s.length) t w := by
  obtain ⟨r, hr⟩ : ∃ r, (stop, ([] : List Char)) = r := ⟨_, rfl⟩
  rw [hr] at h
  fun_induction scanWord position s with
  | case1 position =>
    obtain ⟨w, hw, hstop⟩ := exists_scanWord ht position
    refine ⟨w, hw, ?_⟩
    rcases hstop with rfl | hstop
    · exact .before
    · exact .inside hstop
  | case2 position c rest hend =>
    cases h
    cases hr
  | case3 => cases h
  | case4 position c rest hend hbracket stop' rest' hb ih =>
    obtain ⟨w, hw, hleft⟩ := ih h
    obtain ⟨inside, rfl, hstop, hframe⟩ := scanBracket_frame hb
    rw [beq_iff_eq] at hbracket
    subst hbracket
    simp only at hstop
    have hlength : stop' + rest'.length = position + ('[' :: (inside ++ rest')).length := by
      rw [hstop, List.length_cons, List.length_append]
      omega
    refine ⟨w, ?_, hlength ▸ hleft⟩
    rw [← hw, List.cons_append, List.append_assoc, scanWord_bracket (hframe _ _ _), hstop]
  | case5 position c rest hend hbracket ih =>
    obtain ⟨w, hw, hleft⟩ := ih h
    rw [beq_iff_eq] at hbracket
    have hlength := add_length_cons position c rest
    cases hagain : endsWord (c :: (rest ++ t)) with
    | false =>
      refine ⟨w, ?_, hlength ▸ hleft⟩
      rw [← hw, List.cons_append, scanWord_plain hagain hbracket]
    | true =>
      -- the last character of the word is the first one of a sign
      obtain ⟨rfl, hsign, hhead⟩ := sign_of_endsWord (by simpa using hend) hagain
      obtain ⟨rest, rfl⟩ := List.head?_eq_some_iff.1 hhead
      exact ⟨_, scanWord_end hagain position, .sign hsign rfl rfl⟩

/-! ## 5. A token right behind a text -/

theorem bang_of_scanToken {position : Nat} {c : Char} {s : List Char} {r : Scanned Lexeme}
    (h : scanToken position c s = .ok r) (hnot : r.value = .not) : c = '!' ∧ s = r.rest := by
  obtain ⟨front, hfront, -, hwritten, -⟩ := isScannedAs_of_scanToken h
  rw [hnot] at hwritten
  generalize htext : String.ofList (c :: front) = text at hwritten
  cases hwritten with
  | sign _ =>
    have hchars := congrArg String.toList htext
    rw [String.toList_ofList] at hchars
    obtain ⟨rfl, rfl⟩ : c = '!' ∧ front = [] := by simpa [Lexeme.text] using hchars
    exact ⟨rfl, hfront⟩

/-- Where a word starts, and a token follows the text. -/
theorem lt_of_startsWord {position stop : Nat} {c : Char} {s t : List Char} {l : Lexeme}
    (hc : isSeparator c = false) (hstart : startsWord c (s ++ t) = true)
    (hword : scanWord (position + 1) s = .ok (stop, [])) (ht : Spells t l) {e : SyntaxError}
    (he : scanTokens position (c :: (s ++ t)) = .error e) :
    position + (c :: s).length < e.position := by
  obtain ⟨w, hw, hleft⟩ := exists_leftAt hword ht
  have htoken : scanToken position c (s ++ t) =
      .ok ⟨.word (sourceSpan position w.1 (c :: (s ++ t))), w.1, w.2⟩ := by
    rw [scanToken_word hstart, hw]
    rfl
  rw [← add_length_cons]
  rw [scanTokens_eq, skipBlanks_of_head hc] at he
  simp only [htoken] at he
  split at he
  · next he' =>
    cases he
    exact hleft.lt_of_error ht he'
  · cases he

/-- Where a word ends with a text, and a token follows the text: it may go on, or the two make up a
sign. -/
theorem lt_of_word {position : Nat} {c : Char} {s t : List Char} {r : Scanned Lexeme} {w : String}
    {l : Lexeme} (hc : isSeparator c = false) (hr : scanToken position c s = .ok r)
    (hw : r.value = .word w) (hrest : r.rest = []) (ht : Spells t l) {e : SyntaxError}
    (he : scanTokens position (c :: (s ++ t)) = .error e) :
    position + (c :: s).length < e.position := by
  have hstart := startsWord_of_scanToken hr hw
  have hword : ∃ stop, scanWord (position + 1) s = .ok (stop, []) := by
    rw [scanToken_word hstart] at hr
    obtain ⟨⟨stop, rest⟩, hscan, h⟩ := bind_eq_ok.1 hr
    cases h
    exact ⟨stop, hrest ▸ hscan⟩
  obtain ⟨stop, hword⟩ := hword
  cases hagain : startsWord c (s ++ t) with
  | true => exact lt_of_startsWord hc hagain hword ht he
  | false =>
    obtain ⟨rfl, hsign, hhead⟩ := sign_of_startsWord hstart hagain
    obtain ⟨rest, rfl⟩ := List.head?_eq_some_iff.1 hhead
    exact LeftAt.lt_of_error (.sign hsign rfl rfl) ht he

/-- A token at the end of a text that does not end before the token behind the text is a word or a
bang, and what the scanner reads there instead is a word or a sign. -/
theorem lt_of_scanTokens_touching {position : Nat} {c : Char} {s t : List Char} {r : Scanned Lexeme}
    {l : Lexeme} (hc : isSeparator c = false) (hr : scanToken position c s = .ok r)
    (hrest : r.rest = []) (ht : Spells t l) (hlike : ¬r.value.EndsLike [] t) {e : SyntaxError}
    (he : scanTokens position (c :: (s ++ t)) = .error e) :
    position + (c :: s).length < e.position := by
  by_cases hword : ∃ w, r.value = .word w
  · obtain ⟨w, hw⟩ := hword
    exact lt_of_word hc hr hw hrest ht he
  · have hbang : r.value = .not ∧ t.head? = some '=' := by
      by_contra hbang
      exact hlike ⟨fun hnot hhead => hbang ⟨hnot, hhead⟩, fun w hw => absurd ⟨w, hw⟩ hword⟩
    obtain ⟨rfl, hs⟩ := bang_of_scanToken hr hbang.1
    rw [hrest] at hs
    subst hs
    have hstart : startsWord '!' ([] ++ t) = true := by
      simp [startsWord, hbang.2, isQuote]
    exact lt_of_startsWord hc hstart (scanWord_end rfl _) ht he

theorem endsWord_of_scanToken {position : Nat} {c : Char} {s : List Char} {r : Scanned Lexeme}
    {w : String} (h : scanToken position c s = .ok r) (hw : r.value = .word w) :
    endsWord r.rest = true := by
  rw [scanToken_word (startsWord_of_scanToken h hw)] at h
  obtain ⟨⟨stop, rest⟩, hscan, h⟩ := bind_eq_ok.1 h
  cases h
  obtain ⟨-, -, -, hend, -⟩ := scanWord_frame hscan
  exact hend

theorem endsWord_append {c : Char} {s : List Char} (h : endsWord (c :: s) = true)
    (t : List Char) : endsWord (c :: (s ++ t)) = true := by
  rw [endsWord_cons, Bool.or_eq_true] at h ⊢
  refine h.imp_left fun hsign => ?_
  cases s with
  | nil => simp at hsign
  | cons d s => exact hsign

/-- A token ends where it did with more text behind it, unless there was none. -/
theorem eq_nil_of_not_endsLike {position : Nat} {c : Char} {s t : List Char} {r : Scanned Lexeme}
    (h : scanToken position c s = .ok r) (hlike : ¬r.value.EndsLike r.rest (r.rest ++ t)) :
    r.rest = [] := by
  match hrest : r.rest with
  | [] => rfl
  | d :: rest =>
    refine absurd ⟨fun hnot => ?_, fun w hw => ?_⟩ hlike
    · have hhead := head?_ne_of_scanToken_not h hnot
      rw [hrest] at hhead ⊢
      exact hhead
    · have hend := endsWord_of_scanToken h hw
      rw [hrest] at hend ⊢
      exact .inr ⟨rfl, (endsWord_append hend t).trans hend.symm⟩

/-- A token behind a text that has tokens: the scanner refuses nothing at the token's first character
or before. -/
theorem Scans.lt_of_error {position : Nat} {s t : List Char} {ts : List Token} {l : Lexeme}
    (h : Scans position s ts) (ht : Spells t l) {e : SyntaxError}
    (he : Query.scanTokens position (s ++ t) = .error e) : position + s.length < e.position := by
  -- along the scanner; each token ends as it did, or touches the one behind the text
  induction h with
  | finish hgap =>
    rw [scanTokens_append hgap, ht.scanTokens] at he
    cases he
  | @token position gap c text rest l' ts hgap hc htoken _ ih =>
    rw [List.append_assoc, scanTokens_append hgap, List.cons_append] at he
    simp only [List.length_append]
    rw [← Nat.add_assoc]
    by_cases hlike : l'.EndsLike rest (rest ++ t)
    · have htoken' := (frame_of_scanToken htoken).2 (position + gap.length) _ hlike
      rw [scanTokens_eq, List.append_assoc, skipBlanks_of_head hc] at he
      simp only [htoken'] at he
      split at he
      · next he' =>
        cases he
        have hlow := ih he'
        simp only [List.length_append, List.length_cons] at hlow ⊢
        omega
      · cases he
    · have hrest : rest = [] := eq_nil_of_not_endsLike htoken hlike
      subst hrest
      exact lt_of_scanTokens_touching hc htoken rfl ht hlike he

end FileQuery.Query
