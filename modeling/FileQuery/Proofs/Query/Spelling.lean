import FileQuery.Proofs.Result
import FileQuery.Query.Canonical
import FileQuery.Query.Token

/-!
# Texts that spell a token

A text spells a lexeme when the scanner reads it as that lexeme at any position, whatever comes after
the blank, the closing parenthesis or the end that follows it.  Quoted values and bracketed sets spell
what they were written for.  A word spells itself once it has been scanned as a word anywhere, because
the scanner never looks further than one character past a word.
-/

namespace FileQuery.Query

def Breaks (rest : List Char) : Prop := ∀ c ∈ rest.head?, isSeparator c = true ∨ c = ')'

theorem Breaks.nil : Breaks [] := by simp [Breaks]

theorem Breaks.separator {c : Char} (h : isSeparator c = true) (rest : List Char) :
    Breaks (c :: rest) := by simp [Breaks, h]

theorem Breaks.paren (rest : List Char) : Breaks (')' :: rest) := by simp [Breaks]

/-- `s` is read as `l` wherever it stands before a break. -/
def Spells (s : List Char) (l : Lexeme) : Prop :=
  ∃ c cs, s = c :: cs ∧ isSeparator c = false ∧ ∀ position rest, Breaks rest →
    scanToken position c (cs ++ rest) = .ok ⟨l, position + s.length, rest⟩

/-! ## 1. Quoted values -/

theorem scanQuoted_plain {quote c : Char} (hc : c ≠ '\\') (start : Nat) (taken : List Char)
    (position : Nat) (rest : List Char) :
    scanQuoted quote start taken position (c :: rest) =
      if c == quote then .ok ⟨taken.reverse, position + 1, rest⟩
      else scanQuoted quote start (c :: taken) (position + 1) rest := by
  rw [scanQuoted]
  exact hc

/-- The scanner of quoted text sees only what it takes, and takes it the same way everywhere. -/
theorem scanQuoted_frame {quote : Char} {start position : Nat} {taken s : List Char}
    {r : Scanned (List Char)} (h : scanQuoted quote start taken position s = .ok r) :
    ∃ front, s = front ++ r.rest ∧ r.position = position + front.length ∧
      ∀ start position rest, scanQuoted quote start taken position (front ++ rest) =
        .ok ⟨r.value, position + front.length, rest⟩ := by
  fun_induction scanQuoted quote start taken position s with
  | case1 => cases h
  | case2 => cases h
  | case3 => cases h
  | case4 taken position e rest c he ih =>
    -- an escape is two characters of the text and one of the value
    obtain ⟨front, rfl, hposition, hframe⟩ := ih h
    refine ⟨'\\' :: e :: front, rfl, ?_, fun start position rest => ?_⟩
    · rw [hposition, List.length_cons, List.length_cons]
      omega
    · rw [List.cons_append, List.cons_append, scanQuoted]
      simp only [he, hframe, List.length_cons]
      congr 2
      omega
  | case5 taken position c rest hslash hc =>
    cases h
    refine ⟨[c], rfl, rfl, fun start position rest => ?_⟩
    rw [List.singleton_append, scanQuoted_plain hslash, if_pos hc]
    rfl
  | case6 taken position c rest hslash hc ih =>
    obtain ⟨front, rfl, hposition, hframe⟩ := ih h
    refine ⟨c :: front, rfl, ?_, fun start position rest => ?_⟩
    · rw [hposition, List.length_cons]
      omega
    · rw [List.cons_append, scanQuoted_plain hslash, if_neg hc, hframe, List.length_cons]
      congr 2
      omega

/-- Each character of a value is read back from the way it is written. -/
theorem scanQuoted_quoteChar (c : Char) (start : Nat) (taken : List Char) (position : Nat)
    (rest : List Char) :
    scanQuoted '"' start taken position (quoteChar c ++ rest) =
      scanQuoted '"' start (c :: taken) (position + (quoteChar c).length) rest := by
  unfold quoteChar
  split
  case h_6 hslash hquote _ _ _ =>
    rw [List.singleton_append, scanQuoted_plain hslash, if_neg]
    · rfl
    · simpa using hquote
  all_goals rfl

/-- A text is read back if each of its characters is read back from the way it is written. -/
theorem scanQuoted_flatMap {write : Char → List Char}
    (hwrite : ∀ c start taken position rest, scanQuoted '"' start taken position (write c ++ rest) =
      scanQuoted '"' start (c :: taken) (position + (write c).length) rest)
    (s : List Char) (start : Nat) (taken : List Char) (position : Nat) (rest : List Char) :
    scanQuoted '"' start taken position (s.flatMap write ++ '"' :: rest) =
      .ok ⟨taken.reverse ++ s, position + (s.flatMap write).length + 1, rest⟩ := by
  induction s generalizing taken position with
  | nil =>
    rw [List.flatMap_nil, List.nil_append, scanQuoted_plain (by decide), if_pos (by decide),
      List.append_nil]
    rfl
  | cons c s ih =>
    rw [List.flatMap_cons, List.append_assoc, hwrite, ih, List.reverse_cons, List.append_assoc,
      List.length_append]
    congr 2
    omega

theorem toList_quote (s : String) :
    (quote s).toList = '"' :: (s.toList.flatMap quoteChar ++ ['"']) := by
  simp [quote]

/-- A quoted value with what follows it, as the scanner meets it. -/
theorem toList_quote_append (s : String) (rest : List Char) :
    (quote s).toList ++ rest = '"' :: (s.toList.flatMap quoteChar ++ '"' :: rest) := by
  simp [toList_quote]

theorem length_quote (s : String) :
    (quote s).toList.length = (s.toList.flatMap quoteChar).length + 2 := by
  simp [toList_quote]

theorem spells_quote (s : String) : Spells (quote s).toList (.quoted s) := by
  refine ⟨'"', _, toList_quote s, by decide, fun position rest _ => ?_⟩
  rw [List.append_assoc, List.singleton_append, scanToken, if_neg (by simp), if_pos (by decide),
    scanQuoted_flatMap scanQuoted_quoteChar, length_quote]
  · simp only [List.reverse_nil, List.nil_append, bind, Except.bind, pure, Except.pure,
      String.ofList_toList]
    congr 2
    omega
  all_goals simp

/-! ## 2. Words -/

def isWordChar (c : Char) : Bool :=
  !(isSeparator c || c == '(' || c == ')' || isQuote c || c == '&' || c == '|' || c == '[')

def startsWord (c : Char) (rest : List Char) : Bool :=
  !((c == '&' || c == '|') && rest.head? == some c || c == '(' || c == ')' ||
    (c == '!' && rest.head? != some '=') || isQuote c || c == '[')

def IsTail (s : List Char) : Prop :=
  ∀ position rest, Breaks rest → scanWord position (s ++ rest) = .ok (position + s.length, rest)

/-- No sign of two equal characters stands here. -/
theorem double_eq_false {c : Char} {s : List Char}
    (hand : ∀ rest, c = '&' → s = '&' :: rest → False)
    (hor : ∀ rest, c = '|' → s = '|' :: rest → False) :
    ((c == '&' || c == '|') && s.head? == some c) = false := by
  rw [Bool.and_eq_false_imp, Bool.or_eq_true, beq_iff_eq, beq_iff_eq, beq_eq_false_iff_ne]
  intro hc hs
  obtain ⟨rest, rfl⟩ := List.head?_eq_some_iff.1 hs
  rcases hc with rfl | rfl
  · exact hand rest rfl rfl
  · exact hor rest rfl rfl

theorem endsWord_cons (c : Char) (s : List Char) :
    endsWord (c :: s) = ((c == '&' || c == '|') && s.head? == some c ||
      (isSeparator c || c == '(' || c == ')' || isQuote c)) := by
  unfold endsWord
  split
  · simp_all
  · simp_all
  · simp_all
  · next d t hand hor h =>
    cases h
    rw [double_eq_false hand hor, Bool.false_or]

theorem Breaks.head?_ne {rest : List Char} (h : Breaks rest) {c : Char}
    (hc : c = '&' ∨ c = '|' ∨ c = '=') : rest.head? ≠ some c := by
  intro hhead
  rcases hc with rfl | rfl | rfl <;> rcases h _ hhead with h | h <;> cases h

theorem Breaks.endsWord {rest : List Char} (h : Breaks rest) : endsWord rest = true := by
  cases rest with
  | nil => rfl
  | cons c rest =>
    rw [endsWord_cons]
    rcases h c rfl with h | rfl
    · simp [h]
    · simp

theorem breaks_append {gap : List Char} (hne : gap ≠ []) (hgap : ∀ c ∈ gap, isSeparator c = true)
    (rest : List Char) : Breaks (gap ++ rest) := by
  cases gap with
  | nil => exact absurd rfl hne
  | cons c gap => exact .separator (hgap c List.mem_cons_self) _

/-- No sign of two equal characters begins with the last character before a break. -/
theorem Breaks.double {rest : List Char} (h : Breaks rest) (c : Char) :
    ((c == '&' || c == '|') && rest.head? == some c) = false := by
  rw [Bool.and_eq_false_imp, Bool.or_eq_true, beq_iff_eq, beq_iff_eq, beq_eq_false_iff_ne]
  exact fun hc => h.head?_ne (hc.imp_right .inl)

/-- A text before which a token ends if it ends before `rest`. -/
def EndsLike (rest rest' : List Char) : Prop :=
  Breaks rest' ∨ rest'.head? = rest.head? ∧ endsWord rest' = endsWord rest

theorem EndsLike.endsWord {rest rest' : List Char} (h : EndsLike rest rest')
    (hrest : endsWord rest = true) : endsWord rest' = true :=
  h.elim Breaks.endsWord fun hlike => hlike.2.trans hrest

/-- A word goes on past a character before what ends it as it did before. -/
theorem endsWord_frame {c : Char} {s rest rest' : List Char}
    (h : endsWord (c :: (s ++ rest)) = false) (hrest : EndsLike rest rest') :
    endsWord (c :: (s ++ rest')) = false := by
  rw [endsWord_cons, Bool.or_eq_false_iff] at h ⊢
  refine ⟨?_, h.2⟩
  cases s with
  | cons d s => exact h.1
  | nil =>
    rcases hrest with hbreak | ⟨hhead, -⟩
    · exact hbreak.double c
    · exact hhead ▸ h.1

theorem scanBracket_frame {start position : Nat} {s : List Char} {r : Nat × List Char}
    (h : scanBracket start position s = .ok r) :
    ∃ front, s = front ++ r.2 ∧ r.1 = position + front.length ∧
      ∀ start position rest, scanBracket start position (front ++ rest) =
        .ok (position + front.length, rest) := by
  fun_induction scanBracket start position s with
  | case1 => cases h
  | case2 => cases h
  | case3 position c rest hc q hq ih =>
    -- quoted text in brackets is taken as a whole, with any bracket in it
    obtain ⟨text, rfl, hqposition, hquoted⟩ := scanQuoted_frame hq
    obtain ⟨front, hfront, hposition, hframe⟩ := ih h
    refine ⟨c :: (text ++ front), ?_, ?_, fun start position rest => ?_⟩
    · rw [hfront, List.cons_append, List.append_assoc]
    · rw [hposition, hqposition, List.length_cons, List.length_append]
      omega
    · rw [List.cons_append, List.append_assoc, scanBracket, if_pos hc]
      split
      · next e he => rw [hquoted] at he; cases he
      · next q' hq' =>
        rw [hquoted] at hq'
        cases hq'
        show scanBracket start (position + 1 + text.length) (front ++ rest) = _
        rw [hframe, List.length_cons, List.length_append]
        congr 2
        omega
  | case4 position c rest hc hend =>
    cases h
    refine ⟨[c], rfl, rfl, fun start position rest => ?_⟩
    rw [List.singleton_append, scanBracket, if_neg hc, if_pos hend]
    rfl
  | case5 position c rest hc hend ih =>
    obtain ⟨front, rfl, hposition, hframe⟩ := ih h
    refine ⟨c :: front, rfl, ?_, fun start position rest => ?_⟩
    · rw [hposition, List.length_cons]
      omega
    · rw [List.cons_append, scanBracket, if_neg hc, if_neg hend, hframe, List.length_cons]
      congr 2
      omega

theorem scanWord_bracket {position stop : Nat} {s rest : List Char}
    (h : scanBracket position (position + 1) s = .ok (stop, rest)) :
    scanWord position ('[' :: s) = scanWord stop rest := by
  rw [scanWord, if_neg (by simp [endsWord_cons, isSeparator, isQuote]), if_pos (by decide)]
  split
  · next e he => rw [h] at he; cases he
  · next stop' rest' h' =>
    rw [h] at h'
    cases h'
    rfl

theorem scanWord_end {rest : List Char} (h : endsWord rest = true) (position : Nat) :
    scanWord position rest = .ok (position, rest) := by
  cases rest with
  | nil => rw [scanWord]
  | cons c rest => rw [scanWord, if_pos h]

theorem scanWord_plain {c : Char} {s : List Char} (hc : endsWord (c :: s) = false)
    (hbracket : c ≠ '[') (position : Nat) :
    scanWord position (c :: s) = scanWord (position + 1) s := by
  rw [scanWord, if_neg (by simp [hc]), if_neg (by simpa using hbracket)]

theorem IsTail.nil : IsTail [] := by
  intro position rest hrest
  exact scanWord_end hrest.endsWord position

theorem IsTail.cons {c : Char} {s rest : List Char} (hc : endsWord (c :: (s ++ rest)) = false)
    (hbracket : c ≠ '[') (hs : IsTail s) : IsTail (c :: s) := by
  intro position rest' hrest'
  rw [List.cons_append, scanWord_plain (endsWord_frame hc (.inl hrest')) hbracket, hs _ _ hrest',
    List.length_cons]
  congr 2
  omega

theorem IsTail.bracket {s t : List Char} (ht : IsTail t) (hs : ∀ start position rest,
    scanBracket start position (s ++ rest) = .ok (position + s.length, rest)) :
    IsTail ('[' :: (s ++ t)) := by
  intro position rest hrest
  rw [List.cons_append, List.append_assoc, scanWord_bracket (hs _ _ _), ht _ _ hrest,
    List.length_cons, List.length_append]
  congr 2
  omega

/-- The scanner of words passes over the same text wherever that ends as it did. -/
theorem scanWord_frame {position : Nat} {s : List Char} {r : Nat × List Char}
    (h : scanWord position s = .ok r) :
    ∃ front, s = front ++ r.2 ∧ r.1 = position + front.length ∧ endsWord r.2 = true ∧
      ∀ position rest, EndsLike r.2 rest →
        scanWord position (front ++ rest) = .ok (position + front.length, rest) := by
  fun_induction scanWord position s with
  | case1 =>
    cases h
    exact ⟨[], rfl, rfl, rfl, fun position rest hrest => scanWord_end (hrest.endsWord rfl) position⟩
  | case2 position c rest hend =>
    cases h
    exact ⟨[], rfl, rfl, hend,
      fun position rest hrest => scanWord_end (hrest.endsWord hend) position⟩
  | case3 => cases h
  | case4 position c rest hend hbracket stop rest' hb ih =>
    -- the word goes on after the bracket
    obtain ⟨inside, hinside, hstop, hframe⟩ := scanBracket_frame hb
    obtain ⟨front, hfront, hposition, hstopped, hagain⟩ := ih h
    rw [beq_iff_eq] at hbracket
    subst hbracket
    refine ⟨'[' :: (inside ++ front), ?_, ?_, hstopped, fun position rest hrest => ?_⟩
    · rw [hinside, hfront, List.cons_append, List.append_assoc]
    · simp only at hstop
      rw [hposition, hstop, List.length_cons, List.length_append]
      omega
    · rw [List.cons_append, List.append_assoc, scanWord_bracket (hframe _ _ _), hagain _ _ hrest,
        List.length_cons, List.length_append]
      congr 2
      omega
  | case5 position c rest hend hbracket ih =>
    obtain ⟨front, hfront, hposition, hstopped, hagain⟩ := ih h
    rw [hfront] at hend
    refine ⟨c :: front, by rw [hfront]; rfl, ?_, hstopped, fun position rest hrest => ?_⟩
    · rw [hposition, List.length_cons]
      omega
    · rw [List.cons_append, scanWord_plain (endsWord_frame (by simpa using hend) hrest)
        (by simpa using hbracket), hagain _ _ hrest, List.length_cons]
      congr 2
      omega

theorem scanToken_word {c : Char} {rest : List Char} (h : startsWord c rest = true)
    (position : Nat) : scanToken position c rest = do
      let (stop, rest') ← scanWord (position + 1) rest
      return ⟨.word (sourceSpan position stop (c :: rest)), stop, rest'⟩ := by
  simp only [startsWord, Bool.not_eq_true', Bool.or_eq_false_iff, beq_eq_false_iff_ne] at h
  obtain ⟨⟨⟨⟨⟨hdouble, hopen⟩, hclose⟩, hbang⟩, hquote⟩, hbracket⟩ := h
  unfold scanToken
  split
  · simp at hdouble
  · simp at hdouble
  · exact absurd rfl hopen
  · exact absurd rfl hclose
  · rw [if_neg (by simp [hbang]), if_neg (by simp [hquote]), if_neg (by simpa using hbracket)]

theorem sourceSpan_append (position : Nat) (s rest : List Char) :
    sourceSpan position (position + s.length) (s ++ rest) = String.ofList s := by
  rw [sourceSpan, Nat.add_sub_cancel_left, List.take_left]

theorem startsWord_append {c : Char} {s rest : List Char} (h : startsWord c s = true)
    (hrest : Breaks rest) : startsWord c (s ++ rest) = true := by
  cases s with
  | cons d s => exact h
  | nil =>
    have hbang : c ≠ '!' := by
      rintro rfl
      exact absurd h (by decide)
    simp only [startsWord, List.nil_append, hrest.double c] at h ⊢
    simpa [hbang] using h

theorem spells_word {c : Char} {s : List Char} (hc : isSeparator c = false)
    (hstart : startsWord c s = true) (hs : IsTail s) :
    Spells (c :: s) (.word (String.ofList (c :: s))) := by
  refine ⟨c, s, rfl, hc, fun position rest hrest => ?_⟩
  rw [scanToken_word (startsWord_append hstart hrest), hs _ _ hrest]
  have hspan := sourceSpan_append position (c :: s) rest
  rw [List.length_cons, Nat.add_comm s.length 1, ← Nat.add_assoc] at hspan
  simp only [bind, Except.bind, pure, Except.pure]
  rw [← List.cons_append, hspan, List.length_cons, Nat.add_comm s.length 1, Nat.add_assoc]

theorem endsWord_of_isWordChar {c : Char} (h : isWordChar c = true) (s : List Char) :
    endsWord (c :: s) = false := by
  simp only [isWordChar, Bool.not_eq_true', Bool.or_eq_false_iff] at h
  simp [endsWord_cons, h]

theorem isSeparator_of_isWordChar {c : Char} (h : isWordChar c = true) : isSeparator c = false := by
  simp only [isWordChar, Bool.not_eq_true', Bool.or_eq_false_iff] at h
  exact h.1.1.1.1.1.1

theorem isQuote_of_isWordChar {c : Char} (h : isWordChar c = true) : isQuote c = false := by
  simp only [isWordChar, Bool.not_eq_true', Bool.or_eq_false_iff] at h
  exact h.1.1.1.2

theorem ne_bracket_of_isWordChar {c : Char} (h : isWordChar c = true) : c ≠ '[' := by
  rintro rfl
  exact absurd h (by decide)

theorem IsTail.append {s t : List Char} (hs : ∀ c ∈ s, isWordChar c = true) (ht : IsTail t) :
    IsTail (s ++ t) := by
  induction s with
  | nil => exact ht
  | cons c s ih =>
    rw [List.forall_mem_cons] at hs
    have hend : endsWord (c :: ((s ++ t) ++ [])) = false := endsWord_of_isWordChar hs.1 _
    exact .cons hend (ne_bracket_of_isWordChar hs.1) (ih hs.2)

def specials : List Char := [' ', '\t', '\r', '\n', '(', ')', '"', '\'', '&', '|', '[']

theorem isWordChar_of_specials {p : Char → Bool} (hp : specials.any p = false) {c : Char}
    (h : p c = true) : isWordChar c = true := by
  cases hword : isWordChar c with
  | true => rfl
  | false =>
    have hmem : c ∈ specials := by
      simp only [isWordChar, isSeparator, isQuote, Bool.not_eq_false', Bool.or_eq_true,
        beq_iff_eq] at hword
      simpa only [specials, List.mem_cons, List.not_mem_nil, or_false, or_assoc] using hword
    exact absurd h (List.any_eq_false.1 hp c hmem)

theorem isWordChar_of_isDigit {c : Char} (h : c.isDigit = true) : isWordChar c = true :=
  isWordChar_of_specials rfl h

theorem startsWord_of_isWordChar {c : Char} {s : List Char} (h : isWordChar c = true)
    (hbang : c = '!' → s.head? = some '=') : startsWord c s = true := by
  simp only [isWordChar, Bool.not_eq_true', Bool.or_eq_false_iff] at h
  have hsign : (c == '!' && s.head? != some '=') = false := by
    rw [Bool.and_eq_false_imp, beq_iff_eq]
    intro hc
    simp [hbang hc]
  simp [startsWord, h, hsign]

/-- A text of characters that may stand anywhere in a word is a word. -/
theorem spells_of_isWordChar {c : Char} {s : List Char} (hbang : c = '!' → s.head? = some '=')
    (h : ∀ d ∈ c :: s, isWordChar d = true) :
    Spells (c :: s) (.word (String.ofList (c :: s))) := by
  rw [List.forall_mem_cons] at h
  have htail : IsTail (s ++ []) := IsTail.nil.append h.2
  rw [List.append_nil] at htail
  exact spells_word (isSeparator_of_isWordChar h.1) (startsWord_of_isWordChar h.1 hbang) htail

/-! ## 3. The words of a query -/

theorem startsWord_of_scanToken {position : Nat} {c : Char} {rest : List Char} {r : Scanned Lexeme}
    {w : String} (h : scanToken position c rest = .ok r) (hw : r.value = .word w) :
    startsWord c rest = true := by
  unfold scanToken at h
  split at h
  · cases h; cases hw
  · cases h; cases hw
  · cases h; cases hw
  · cases h; cases hw
  · next hopen hclose hand hor =>
    split at h
    · cases h; cases hw
    · next hbang =>
      split at h
      · obtain ⟨q, -, h⟩ := bind_eq_ok.1 h
        cases h; cases hw
      · next hquote =>
        split at h
        · obtain ⟨items, -, h⟩ := bind_eq_ok.1 h
          cases h; cases hw
        · next hbracket =>
          -- a word is all that is left when nothing else begins here
          have hdouble := double_eq_false hand hor
          have hparens : c ≠ '(' ∧ c ≠ ')' := ⟨hopen, hclose⟩
          simp [startsWord, hdouble, hparens, hbang, hquote, hbracket]

/-- A word starts as it did before, wherever it ends as it did before. -/
theorem startsWord_frame {c : Char} {s rest rest' : List Char}
    (h : startsWord c (s ++ rest) = true) (hend : endsWord rest = true)
    (hrest : EndsLike rest rest') : startsWord c (s ++ rest') = true := by
  cases s with
  | cons d s => exact h
  | nil =>
    rcases hrest with hbreak | ⟨hhead, -⟩
    · -- after a lone bang an equals sign would belong to the word
      have hbang : c ≠ '!' := by
        rintro rfl
        have hequals : rest.head? = some '=' := by simpa [startsWord, isQuote] using h
        obtain ⟨rest, rfl⟩ := List.head?_eq_some_iff.1 hequals
        rw [endsWord_of_isWordChar (by decide)] at hend
        cases hend
      simp only [startsWord, List.nil_append, hbreak.double c] at h ⊢
      revert h
      simp +contextual [hbang]
    · simp only [startsWord, List.nil_append, hhead] at h ⊢
      exact h

/-- A word is scanned as the same word wherever it is written again. -/
theorem spells_of_scanToken {position : Nat} {c : Char} {rest : List Char} {r : Scanned Lexeme}
    {w : String} (hc : isSeparator c = false) (h : scanToken position c rest = .ok r)
    (hw : r.value = .word w) : Spells w.toList (.word w) := by
  have hstart := startsWord_of_scanToken h hw
  rw [scanToken_word hstart] at h
  obtain ⟨⟨stop, rest'⟩, hscan, h⟩ := bind_eq_ok.1 h
  cases h
  obtain ⟨s, rfl, hstop, hend, hagain⟩ := scanWord_frame hscan
  have htail : IsTail s := fun position rest hrest => hagain position rest (.inl hrest)
  simp only at hstop hend hw
  have hstop' : stop = position + (c :: s).length := by
    rw [hstop, List.length_cons]
    omega
  rw [hstop', ← List.cons_append, sourceSpan_append] at hw
  cases hw
  rw [String.toList_ofList]
  have halone := startsWord_frame hstart hend (.inl .nil)
  rw [List.append_nil] at halone
  exact spells_word hc halone htail

theorem isSeparator_of_skipBlanks {position start : Nat} {s rest : List Char} {c : Char}
    (h : skipBlanks position s = (start, c :: rest)) : isSeparator c = false := by
  induction s generalizing position with
  | nil => cases h
  | cons d s ih =>
    rw [skipBlanks] at h
    split at h
    · exact ih h
    · next hd =>
      cases h
      simpa using hd

theorem spells_of_scanTokens {position : Nat} {s : List Char} {ts : List Token}
    (h : scanTokens position s = .ok ts) {t : Token} (ht : t ∈ ts) {w : String}
    (hw : t.lexeme = .word w) : Spells w.toList (.word w) := by
  fun_induction scanTokens position s generalizing ts with
  | case1 =>
    cases h
    rw [List.mem_singleton] at ht
    subst ht
    cases hw
  | case2 => cases h
  | case3 => cases h
  | case4 position s start c rest hs r hr tokens hts ih =>
    cases h
    rcases List.mem_cons.1 ht with rfl | ht
    · exact spells_of_scanToken (isSeparator_of_skipBlanks hs) hr hw
    · exact ih hts ht

/-! ## 4. Sets -/

def IsItem (s value : List Char) : Prop :=
  ∃ c cs, s = c :: cs ∧ isSeparator c = false ∧ c ≠ ']' ∧ ∀ position d rest, endsItem d = true →
    scanItem position (s ++ d :: rest) = .ok ⟨value, position + s.length, d :: rest⟩

theorem isItem_quote (s : String) : IsItem (quote s).toList s.toList := by
  refine ⟨'"', _, toList_quote s, by decide, by decide, fun position d rest _ => ?_⟩
  rw [toList_quote_append, scanItem, if_pos (by decide),
    scanQuoted_flatMap scanQuoted_quoteChar, length_quote]
  simp only [List.reverse_nil, List.nil_append]
  congr 2
  omega

theorem isItem_of_any {c : Char} {s : List Char} (hany : (c :: s).any endsItem = false) :
    IsItem (c :: s) (c :: s) := by
  have h : ∀ d ∈ c :: s, endsItem d = false := fun d hd => by
    simpa using List.any_eq_false.1 hany d hd
  have hc := h c List.mem_cons_self
  simp only [endsItem, Bool.or_eq_false_iff, beq_eq_false_iff_ne] at hc
  obtain ⟨⟨⟨hblank, hcomma⟩, hclose⟩, hquote⟩ := hc
  refine ⟨c, s, rfl, hblank, hclose, fun position d rest hend => ?_⟩
  have htake : (c :: (s ++ d :: rest)).takeWhile (fun e => !endsItem e) = c :: s := by
    rw [← List.cons_append, List.takeWhile_append_of_pos (by simpa using h),
      List.takeWhile_cons_of_neg (by simp [hend]), List.append_nil]
  rw [List.cons_append, scanItem, if_neg (by simp [hquote])]
  simp only [htake]
  rw [if_neg (by simp), ← List.cons_append, List.drop_left]

/-- What the scanner takes for an item is one wherever it stands. -/
theorem isItem_of_scanItem {position : Nat} {c : Char} {s : List Char} {r : Scanned (List Char)}
    (hc : isSeparator c = false) (hclose : c ≠ ']') (h : scanItem position (c :: s) = .ok r) :
    ∃ front, c :: s = front ++ r.rest ∧ IsItem front r.value := by
  rw [scanItem] at h
  split at h
  · next hquote =>
    obtain ⟨front, rfl, -, hframe⟩ := scanQuoted_frame h
    refine ⟨c :: front, rfl, c, front, rfl, hc, hclose, fun position d rest _ => ?_⟩
    rw [List.cons_append, scanItem, if_pos hquote, hframe, List.length_cons]
    congr 2
    omega
  · dsimp only at h
    split at h
    · cases h
    · next hne =>
      cases h
      refine ⟨_, (List.prefix_iff_eq_append.1 (List.takeWhile_prefix _)).symm, ?_⟩
      -- without quotes an item is all up to a character that ends it
      cases hitem : (c :: s).takeWhile fun d => !endsItem d with
      | nil => exact absurd (List.isEmpty_iff.2 hitem) hne
      | cons d item =>
        refine isItem_of_any (List.any_eq_false.2 fun e he => ?_)
        rw [← hitem] at he
        simpa using List.all_eq_true.1 List.all_takeWhile e he

section items

variable {acc : List String} {position : Nat} {s value : List Char}

theorem skipBlanks_of_head {c : Char} {cs : List Char} (hc : isSeparator c = false) :
    skipBlanks position (c :: cs) = (position, c :: cs) := by
  rw [skipBlanks, hc]
  rfl

/-- What is skipped are blanks. -/
theorem exists_gap {position start : Nat} {s rest : List Char}
    (h : skipBlanks position s = (start, rest)) :
    ∃ gap, s = gap ++ rest ∧ start = position + gap.length ∧ ∀ c ∈ gap, isSeparator c = true := by
  fun_induction skipBlanks position s with
  | case1 position c s hc ih =>
    obtain ⟨gap, rfl, rfl, hgap⟩ := ih h
    exact ⟨c :: gap, rfl, by rw [List.length_cons]; omega, List.forall_mem_cons.2 ⟨hc, hgap⟩⟩
  | case2 position c s hc =>
    cases h
    exact ⟨[], rfl, rfl, nofun⟩
  | case3 =>
    cases h
    exact ⟨[], rfl, rfl, nofun⟩

theorem skipBlanks_append {gap : List Char} (hgap : ∀ c ∈ gap, isSeparator c = true)
    (position : Nat) (s : List Char) :
    skipBlanks position (gap ++ s) = skipBlanks (position + gap.length) s := by
  induction gap generalizing position with
  | nil => rfl
  | cons c gap ih =>
    rw [List.forall_mem_cons] at hgap
    rw [List.cons_append, skipBlanks, if_pos hgap.1, ih hgap.2, List.length_cons]
    congr 1
    omega

/-- The scanner of items without the facts that make it end. -/
theorem scanItems_eq (s : List Char) : scanItems acc position s =
    match skipBlanks position s with
    | (start, []) => .error ⟨.unterminatedSet, start, [.closingBracket]⟩
    | (start, c :: rest) =>
      if c == ']' then .ok ⟨acc.reverse, start + 1, rest⟩
      else
        match scanItem start (c :: rest) with
        | .error e => .error e
        | .ok item =>
          match skipBlanks item.position item.rest with
          | (stop, []) => .error ⟨.unterminatedSet, stop, [.closingBracket]⟩
          | (stop, d :: rest) =>
            if d == ',' then scanItems (String.ofList item.value :: acc) (stop + 1) rest
            else if d == ']' then .ok ⟨(String.ofList item.value :: acc).reverse, stop + 1, rest⟩
            else .error ⟨.strayInSet d, stop, [.comma, .closingBracket]⟩ := by
  rw [scanItems]
  split
  · next h => simp only [h]
  · next h =>
    simp only [h]
    split
    · rfl
    · split
      · next hi => simp only [hi]
      · next hi =>
        simp only [hi]
        split
        · next ha => simp only [ha]
        · next ha => simp only [ha]

theorem scanItems_close (rest : List Char) :
    scanItems acc position (']' :: rest) = .ok ⟨acc.reverse, position + 1, rest⟩ := by
  rw [scanItems_eq, skipBlanks_of_head (by decide)]
  rfl

theorem scanItems_append {gap : List Char} (hgap : ∀ c ∈ gap, isSeparator c = true)
    (rest : List Char) :
    scanItems acc position (gap ++ rest) = scanItems acc (position + gap.length) rest := by
  rw [scanItems_eq, skipBlanks_append hgap, ← scanItems_eq]

/-- An item is read up to the comma or the bracket behind it, which may stand behind blanks. -/
theorem scanItems_item (h : IsItem s value) (gap : List Char)
    (hgap : ∀ c ∈ gap, isSeparator c = true) {d : Char} (hd : d = ',' ∨ d = ']')
    (rest : List Char) : scanItems acc position (s ++ (gap ++ d :: rest)) =
      if d == ',' then
        scanItems (String.ofList value :: acc) (position + s.length + gap.length + 1) rest
      else .ok ⟨(String.ofList value :: acc).reverse, position + s.length + gap.length + 1, rest⟩ := by
  obtain ⟨c, cs, rfl, hblank, hclose, hscan⟩ := h
  have hend : isSeparator d = false ∧ endsItem d = true := by
    rcases hd with rfl | rfl <;> decide
  -- a blank ends the item as well as the comma or the bracket does
  have hitem : scanItem position ((c :: cs) ++ (gap ++ d :: rest)) =
      .ok ⟨value, position + (c :: cs).length, gap ++ d :: rest⟩ := by
    cases gap with
    | nil => exact hscan position d rest hend.2
    | cons e gap =>
      have he : endsItem e = true := by simp [endsItem, hgap e List.mem_cons_self]
      exact hscan position e (gap ++ d :: rest) he
  rw [scanItems_eq, List.cons_append, skipBlanks_of_head hblank]
  simp only
  rw [if_neg (by simpa using hclose), ← List.cons_append, hitem]
  simp only
  rw [skipBlanks_append hgap, skipBlanks_of_head hend.1]
  rcases hd with rfl | rfl <;> rfl

/-- The items of a set are read alike wherever it stands. -/
theorem scanItems_frame {items : List String} {position : Nat} {s : List Char}
    {r : Scanned (List String)} (h : scanItems items position s = .ok r) :
    ∃ front, s = front ++ r.rest ∧ ∀ position rest, scanItems items position (front ++ rest) =
      .ok ⟨r.value, position + front.length, rest⟩ := by
  fun_induction scanItems items position s with
  | case1 => cases h
  | case2 items position s start c rest hs hc =>
    cases h
    obtain ⟨gap, rfl, -, hgap⟩ := exists_gap hs
    rw [beq_iff_eq] at hc
    subst hc
    refine ⟨gap ++ [']'], by simp, fun position rest => ?_⟩
    rw [List.append_assoc, scanItems_append hgap, List.singleton_append, scanItems_close,
      List.length_append, List.length_singleton, Nat.add_assoc]
  | case3 => cases h
  | case4 => cases h
  | case5 items position s start c rest hs hc item hi stop d rest' ha hd ih =>
    obtain ⟨gap, rfl, -, hgap⟩ := exists_gap hs
    obtain ⟨text, htext, hitem⟩ :=
      isItem_of_scanItem (isSeparator_of_skipBlanks hs) (by simpa using hc) hi
    obtain ⟨gap', hrest, -, hgap'⟩ := exists_gap ha
    -- an item with a comma behind it, and then the items that are left
    obtain ⟨front, rfl, hagain⟩ := ih h
    rw [beq_iff_eq] at hd
    subst hd
    refine ⟨gap ++ (text ++ (gap' ++ ',' :: front)), by simp [htext, hrest], fun position rest => ?_⟩
    simp only [List.append_assoc, List.cons_append]
    rw [scanItems_append hgap, scanItems_item hitem gap' hgap' (.inl rfl), if_pos (by decide), hagain]
    simp only [List.length_append, List.length_cons]
    congr 2
    omega
  | case6 items position s start c rest hs hc item hi stop d rest' ha hd hclose =>
    cases h
    obtain ⟨gap, rfl, -, hgap⟩ := exists_gap hs
    obtain ⟨text, htext, hitem⟩ :=
      isItem_of_scanItem (isSeparator_of_skipBlanks hs) (by simpa using hc) hi
    obtain ⟨gap', hrest, -, hgap'⟩ := exists_gap ha
    rw [beq_iff_eq] at hclose
    subst hclose
    refine ⟨gap ++ (text ++ (gap' ++ [']'])), by simp [htext, hrest], fun position rest => ?_⟩
    simp only [List.append_assoc, List.singleton_append]
    rw [scanItems_append hgap, scanItems_item hitem gap' hgap' (.inr rfl), if_neg (by decide)]
    simp only [List.length_append, List.length_cons, List.length_nil]
    congr 2
    omega
  | case7 => cases h

end items

/-- Items are read one after the other, with a comma and a blank between them, up to the comma or the
bracket behind the last. -/
theorem scanItems_items {α : Type} {text value : α → List Char} :
    ∀ (items : List α), items ≠ [] → (∀ x ∈ items, IsItem (text x) (value x)) →
    ∀ (acc : List String) (position : Nat) {d : Char}, d = ',' ∨ d = ']' → ∀ rest : List Char,
    scanItems acc position ([',', ' '].intercalate (items.map text) ++ d :: rest) =
      let read := (items.map fun x => String.ofList (value x)).reverse ++ acc
      let stop := position + ([',', ' '].intercalate (items.map text)).length + 1
      if d == ',' then scanItems read stop rest else .ok ⟨read.reverse, stop, rest⟩
  | [x], _, h, acc, position, _, hd, rest => by
    rw [List.map_singleton, List.intercalate_singleton, List.map_singleton]
    exact scanItems_item (h x List.mem_cons_self) [] nofun hd rest
  | x :: y :: items, _, h, acc, position, d, hd, rest => by
    rw [List.forall_mem_cons] at h
    have hitems := scanItems_items (y :: items) (List.cons_ne_nil y items) h.2
      (String.ofList (value x) :: acc) (position + (text x).length + 1 + 1) hd rest
    rw [List.map_cons, List.map_cons, List.intercalate_cons_cons]
    rw [List.map_cons] at hitems
    simp only [List.append_assoc, List.cons_append, List.nil_append]
    have hblank : ∀ c ∈ [' '], isSeparator c = true := List.forall_mem_singleton.2 rfl
    -- the item, the blank behind its comma, and the other items
    refine (scanItems_item h.1 [] nofun (.inl rfl) _).trans ?_
    rw [if_pos (by decide)]
    refine ((scanItems_append hblank _).trans hitems).trans ?_
    have hstop : position + (text x).length + 1 + 1 +
        ([',', ' '].intercalate (text y :: items.map text)).length + 1 =
        position + ((text x) ++ ',' :: ' ' ::
          [',', ' '].intercalate (text y :: items.map text)).length + 1 := by
      simp only [List.length_append, List.length_cons]
      omega
    simp only [hstop, List.map_cons, List.reverse_cons, List.append_assoc, List.cons_append,
      List.nil_append]

/-- The items of a set are read up to its closing bracket. -/
theorem scanItems_intercalate {α : Type} {text value : α → List Char} (items : List α)
    (h : ∀ x ∈ items, IsItem (text x) (value x)) (acc : List String) (position : Nat)
    (rest : List Char) :
    scanItems acc position ([',', ' '].intercalate (items.map text) ++ ']' :: rest) =
      .ok ⟨acc.reverse ++ items.map (fun x => String.ofList (value x)),
        position + ([',', ' '].intercalate (items.map text)).length + 1, rest⟩ := by
  cases items with
  | nil => simp [scanItems_close]
  | cons x items =>
    rw [scanItems_items (x :: items) (List.cons_ne_nil x items) h acc position (.inr rfl)]
    simp

theorem toList_bracketed (items : List String) : (bracketed items).toList =
    '[' :: ([',', ' '].intercalate (items.map String.toList) ++ [']']) := by
  simp [bracketed, String.toList_intercalate]

theorem scanToken_set (position : Nat) (rest : List Char) : scanToken position '[' rest = do
    let items ← scanItems [] (position + 1) rest
    return ⟨.set (sourceSpan position items.position ('[' :: rest)) items.value,
      items.position, items.rest⟩ := by
  rw [scanToken, if_neg (by simp), if_neg (by decide), if_pos (by decide)]
  all_goals simp

/-- A bracket and items up to the closing bracket are a set. -/
theorem spells_set {inside : List Char} {items : List String}
    (h : ∀ position rest, scanItems [] position (inside ++ rest) =
      .ok ⟨items, position + inside.length, rest⟩) :
    Spells ('[' :: inside) (.set (String.ofList ('[' :: inside)) items) := by
  refine ⟨'[', inside, rfl, by decide, fun position rest _ => ?_⟩
  have hlength : position + 1 + inside.length = position + ('[' :: inside).length := by
    rw [List.length_cons]
    omega
  rw [scanToken_set, h, hlength, ← List.cons_append]
  simp only [bind, Except.bind, pure, Except.pure, sourceSpan_append]

theorem spells_bracketed {α : Type} {text value : α → String} {items : List α}
    (h : ∀ x ∈ items, IsItem (text x).toList (value x).toList) :
    Spells (bracketed (items.map text)).toList
      (.set (bracketed (items.map text)) (items.map value)) := by
  have hitems : ∀ x ∈ items, IsItem ((String.toList ∘ text) x) ((String.toList ∘ value) x) := h
  have hset : Spells _ (.set _ (items.map value)) := spells_set fun position rest => by
    show scanItems [] position (([',', ' '].intercalate ((items.map text).map String.toList) ++
      [']']) ++ rest) = _
    rw [List.append_assoc, List.singleton_append, List.map_map,
      scanItems_intercalate items hitems [] position rest]
    simp only [List.reverse_nil, List.nil_append, Function.comp_apply, String.ofList_toList,
      List.length_append, List.length_singleton, Nat.add_assoc]
  rwa [← toList_bracketed, String.ofList_toList] at hset

end FileQuery.Query
