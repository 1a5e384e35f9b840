import FileQuery.Proofs.Query.Spans

/-!
# Spacing does not matter

A token is read alike wherever blanks follow it.  So the texts of the tokens of a query, written one
after the other with any blanks between them, have the same tokens as the query.  The reader of trees
takes positions over from the tokens without looking at them; what it reads from the new text differs
in positions only.
-/

namespace FileQuery.Query

/-! ## 1. Texts of tokens -/

theorem ne_backslash_of_isQuote {quote : Char} (h : isQuote quote = true) : quote ≠ '\\' := by
  rintro rfl
  cases h

/-- Quoted text is decoded piece by piece, up to the closing quote. -/
theorem scanQuoted_pieces {quote : Char} (hquote : isQuote quote = true) {pieces : List QuotedPiece}
    (h : ∀ p ∈ pieces, p.IsIn quote) (start : Nat) (taken : List Char) (position : Nat)
    (rest : List Char) :
    scanQuoted quote start taken position (pieces.flatMap QuotedPiece.text ++ quote :: rest) =
      .ok ⟨taken.reverse ++ pieces.map QuotedPiece.decoded,
        position + (pieces.flatMap QuotedPiece.text).length + 1, rest⟩ := by
  induction pieces generalizing taken position with
  | nil =>
    rw [List.flatMap_nil, List.nil_append, scanQuoted_plain (ne_backslash_of_isQuote hquote),
      if_pos (by simp), List.map_nil, List.append_nil]
    rfl
  | cons p pieces ih =>
    rw [List.forall_mem_cons] at h
    -- one piece is one character, or a backslash and the character it stands for
    have hpiece : scanQuoted quote start taken position
        (p.text ++ (pieces.flatMap QuotedPiece.text ++ quote :: rest)) =
        scanQuoted quote start (p.decoded :: taken) (position + p.text.length)
          (pieces.flatMap QuotedPiece.text ++ quote :: rest) := by
      cases p with
      | plain c =>
        have hc : c ≠ quote ∧ c ≠ '\\' := h.1
        rw [QuotedPiece.text, List.singleton_append, scanQuoted_plain hc.2,
          if_neg (by simpa using hc.1)]
        rfl
      | escaped e =>
        obtain ⟨c, hc⟩ := Option.isSome_iff_exists.1 h.1
        have hdecoded : (QuotedPiece.escaped e).decoded = c := by
          rw [QuotedPiece.decoded, hc, Option.getD_some]
        rw [hdecoded, QuotedPiece.text, List.cons_append, List.singleton_append, scanQuoted]
        simp only [hc]
        rfl
    rw [List.flatMap_cons, List.append_assoc, hpiece, ih h.2, List.reverse_cons, List.append_assoc,
      List.map_cons, List.length_append, List.singleton_append]
    congr 2
    omega

theorem spells_quoted {quote : Char} (hquote : isQuote quote = true) {pieces : List QuotedPiece}
    (h : ∀ p ∈ pieces, p.IsIn quote) :
    Spells (quote :: (pieces.flatMap QuotedPiece.text ++ [quote]))
      (.quoted (String.ofList (pieces.map QuotedPiece.decoded))) := by
  have hblank : isSeparator quote = false := by
    rw [isQuote, Bool.or_eq_true, beq_iff_eq, beq_iff_eq] at hquote
    rcases hquote with rfl | rfl <;> rfl
  refine ⟨quote, _, rfl, hblank, fun position rest _ => ?_⟩
  have hlength : position + 1 + (pieces.flatMap QuotedPiece.text).length + 1 =
      position + (quote :: (pieces.flatMap QuotedPiece.text ++ [quote])).length := by
    rw [List.length_cons, List.length_append, List.length_singleton]
    omega
  rw [List.append_assoc, List.singleton_append, scanToken_quoted hquote, scanQuoted_pieces hquote h,
    hlength]
  rfl

/-- A token of a query is spelled by some text in which it is written. -/
theorem Scans.exists_spells {position : Nat} {s : List Char} {ts : List Token}
    (h : Scans position s ts) {t : Token} (ht : t ∈ ts) (hfinish : t.lexeme ≠ .finish) :
    ∃ text, t.lexeme.IsWritten text ∧ Spells text.toList t.lexeme := by
  induction h with
  | finish =>
    rw [List.mem_singleton] at ht
    subst ht
    exact absurd rfl hfinish
  | @token position gap c text rest l ts _ hc htoken _ ih =>
    rcases List.mem_cons.1 ht with rfl | ht
    · obtain ⟨hwritten, hframe⟩ := frame_of_scanToken htoken
      refine ⟨_, hwritten, ?_⟩
      rw [String.toList_ofList]
      exact ⟨c, text, rfl, hc,
        fun position rest' hrest => hframe position rest' (endsLike_of_scanToken htoken (.inl hrest))⟩
    · exact ih ht

/-- However a token is written, it is spelled by it if it is by one way to write it. -/
theorem Lexeme.IsWritten.spells {l : Lexeme} {text text' : String} (h : l.IsWritten text)
    (h' : l.IsWritten text') (hspells : Spells text'.toList l) : Spells text.toList l := by
  cases h with
  | word =>
    cases h' with
    | word => exact hspells
    | sign hl => simp at hl
  | quoted hquote hpieces =>
    rw [String.toList_ofList]
    exact spells_quoted hquote hpieces
  | set =>
    cases h' with
    | set => exact hspells
    | sign hl => simp at hl
  | sign hl =>
    cases h' with
    | sign => exact hspells
    | _ => simp at hl
  | finish =>
    cases h' with
    | sign hl => simp at hl
    | finish => exact hspells

/-- The text that a token stands for is read as this token before any break. -/
theorem Token.StandsFor.spells {query : String} {ts : List Token} (hts : tokenize query = .ok ts)
    {t : Token} (ht : t ∈ ts) (hfinish : t.lexeme ≠ .finish) {span : Span}
    (h : t.StandsFor query.toList span) : Spells (span.text query.toList).toList t.lexeme := by
  obtain ⟨text, hwritten, hspells⟩ := (scans_of_scanTokens hts).exists_spells ht hfinish
  exact h.written.spells hwritten hspells

/-! ## 2. Blanks between tokens -/

/-- Texts written one after the other, with blanks between them and maybe behind the last. -/
inductive Spaced : List String → List Char → Prop
  | nil : Spaced [] []
  | last (text : String) : Spaced [text] text.toList
  | cons {text : String} {texts : List String} {gap rest : List Char} : gap ≠ [] →
      (∀ c ∈ gap, isSeparator c = true) → Spaced texts rest →
      Spaced (text :: texts) (text.toList ++ (gap ++ rest))

theorem spaced_intercalate : ∀ texts : List String,
    Spaced texts (" ".intercalate texts).toList
  | [] => .nil
  | [text] => by
    simpa using Spaced.last text
  | text :: text' :: texts => by
    have hrest := spaced_intercalate (text' :: texts)
    have htext : (" ".intercalate (text :: text' :: texts)).toList =
        text.toList ++ ([' '] ++ (" ".intercalate (text' :: texts)).toList) := by
      simp [String.toList_intercalate]
    rw [htext]
    exact .cons (List.cons_ne_nil _ _) (List.forall_mem_singleton.2 rfl) hrest

/-- Spelled tokens are read from their texts, whatever blanks stand between them. -/
theorem lexes_of_spaced {texts : List String} {s : List Char} (hs : Spaced texts s) :
    ∀ {ls : List Lexeme}, List.Forall₂ (fun text l => Spells text.toList l) texts ls → Lexes s ls := by
  induction hs with
  | nil =>
    rintro _ ⟨⟩
    exact .nil
  | last text =>
    rintro _ (_ | ⟨hspells, ⟨⟩⟩)
    exact hspells.lexes
  | cons hne hgap _ ih =>
    rintro _ (_ | ⟨hspells, hrest⟩)
    exact hspells.lexes.gap hne hgap (ih hrest)

theorem Lexes.tokenize {s : String} {ls : List Lexeme} (h : Lexes s.toList ls) :
    ∃ ts, ts.map Token.lexeme = ls ∧ tokenize s = .ok (ts ++ [⟨.finish, s.length⟩]) := by
  obtain ⟨ts, hls, hts⟩ := h 0 [] _ .nil (scanTokens_nil _)
  rw [List.append_nil, Nat.zero_add, String.length_toList] at hts
  exact ⟨ts, hls, hts⟩

/-! ## 3. Trees without positions -/

def RawPredicate.unplaced (p : RawPredicate) : RawPredicate :=
  ⟨p.selector, 0, p.comparison.map fun c => ⟨c.operator, 0, { c.value with position := 0 }⟩⟩

mutual
def RawExpr.unplaced : RawExpr → RawExpr
  | .pred p => .pred p.unplaced
  | .not e => .not e.unplaced
  | .and es => .and (unplacedAll es)
  | .or es => .or (unplacedAll es)
def unplacedAll : List RawExpr → List RawExpr
  | [] => []
  | e :: es => e.unplaced :: unplacedAll es
end

def Token.unplaced (t : Token) : Token := { t with position := 0 }

def SyntaxError.unplaced (e : SyntaxError) : SyntaxError := { e with position := 0 }

def ReadStop.unplaced : ReadStop → ReadStop
  | .refused e => .refused e.unplaced
  | .underflow => .underflow

def Stacks.unplaced (s : Stacks) : Stacks := { s with operands := s.operands.map RawExpr.unplaced }

theorem unplacedAll_eq_map (es : List RawExpr) : unplacedAll es = es.map RawExpr.unplaced := by
  induction es with
  | nil => rfl
  | cons e es ih => rw [unplacedAll, ih, List.map_cons]

theorem operandsOf_unplaced (j : Junction) (e : RawExpr) :
    RawExpr.operandsOf j e.unplaced = (RawExpr.operandsOf j e).map RawExpr.unplaced := by
  cases j <;> cases e <;> simp [RawExpr.unplaced, RawExpr.operandsOf, unplacedAll_eq_map]

theorem combine_unplaced (j : Junction) (left right : RawExpr) :
    RawExpr.combine j left.unplaced right.unplaced = (RawExpr.combine j left right).unplaced := by
  rw [RawExpr.combine, RawExpr.combine, operandsOf_unplaced, operandsOf_unplaced, ← List.map_append,
    ← unplacedAll_eq_map]
  cases j <;> rfl

theorem applyTop?_unplaced (w : Waiting) (operands : List RawExpr) :
    Stacks.applyTop? w (operands.map RawExpr.unplaced) =
      (Stacks.applyTop? w operands).map (·.map RawExpr.unplaced) := by
  cases w with
  | openParen => rfl
  | not => cases operands <;> rfl
  | junction j =>
    match operands with
    | [] => rfl
    | [_] => rfl
    | right :: left :: operands =>
      show some (_ :: _) = some (_ :: _)
      rw [combine_unplaced]

theorem reduce?_unplaced (precedence : Nat) (waiting : List Waiting) (operands : List RawExpr) :
    Stacks.reduce? precedence waiting (operands.map RawExpr.unplaced) =
      (Stacks.reduce? precedence waiting operands).map Stacks.unplaced := by
  induction waiting generalizing operands with
  | nil => rfl
  | cons w waiting ih =>
    rw [Stacks.reduce?, Stacks.reduce?, applyTop?_unplaced]
    split
    · rfl
    · cases Stacks.applyTop? w operands with
      | none => rfl
      | some operands => exact ih operands

theorem Stacks.isNested_unplaced (s : Stacks) : s.unplaced.isNested = s.isNested := rfl

/-- How stacks are reduced does not depend on positions. -/
theorem Stacks.reduced_unplaced (precedence : Nat) (s : Stacks) :
    Stacks.reduce? precedence s.unplaced.waiting s.unplaced.operands =
      (Stacks.reduce? precedence s.waiting s.operands).map Stacks.unplaced :=
  reduce?_unplaced precedence s.waiting s.operands

def readUnplaced (r : Except ReadStop RawExpr) : Except ReadStop RawExpr :=
  (r.map RawExpr.unplaced).mapError ReadStop.unplaced

theorem value?_unplaced (t : Token) :
    t.unplaced.value? = t.value?.map fun v => { v with position := 0 } := by
  obtain ⟨lexeme, position⟩ := t
  cases lexeme <;> rfl

theorem readPredicate_unplaced (word : String) (position : Nat) (ts : List Token) :
    readPredicate word 0 (ts.map Token.unplaced) =
      ((readPredicate word position ts).map fun r => (r.1.unplaced, r.2.map Token.unplaced)).mapError
        ReadStop.unplaced := by
  match ts with
  | [] => rfl
  | ⟨.word operator, place⟩ :: ts =>
    rw [List.map_cons]
    show readPredicate word 0 (⟨.word operator, 0⟩ :: ts.map Token.unplaced) = _
    cases hk : (keywordOf? operator).isSome with
    | true => simp only [readPredicate, hk, if_true]; rfl
    | false =>
      simp only [readPredicate, hk, Bool.false_eq_true, if_false]
      cases ts with
      | nil => rfl
      | cons t ts =>
        simp only [List.map_cons, value?_unplaced]
        cases t.value? <;> rfl
  | ⟨.quoted _, _⟩ :: _ => rfl
  | ⟨.set _ _, _⟩ :: _ => rfl
  | ⟨.and, _⟩ :: _ => rfl
  | ⟨.or, _⟩ :: _ => rfl
  | ⟨.not, _⟩ :: _ => rfl
  | ⟨.openParen, _⟩ :: _ => rfl
  | ⟨.closeParen, _⟩ :: _ => rfl
  | ⟨.finish, _⟩ :: _ => rfl

theorem readTokens_unplaced (turn : Turn) (s : Stacks) (ts : List Token) :
    readTokens turn s.unplaced (ts.map Token.unplaced) = readUnplaced (readTokens turn s ts) := by
  -- along the reader: without positions it takes the same step, from stacks that are reduced alike
  fun_induction readTokens turn s ts with
  | case1 => rw [List.map_nil, readTokens]; rfl
  | case2 s t rest hk ih => exact (readTokens_not (t := t.unplaced) hk).trans ih
  | case3 s t rest j hk =>
    rw [List.map_cons, readTokens_operand]
    simp only [Token.unplaced, hk]
    rfl
  | case4 s t rest hk hopen ih =>
    obtain ⟨lexeme, position⟩ := t
    cases hopen
    exact readTokens_openParen.trans ih
  | case5 s t rest hk selector hword e he =>
    obtain ⟨lexeme, position⟩ := t
    cases hword
    have hp := readPredicate_unplaced selector position rest
    rw [he] at hp
    exact readTokens_word_error hk hp
  | case6 s t rest hk selector hword p rest' hp ih =>
    obtain ⟨lexeme, position⟩ := t
    cases hword
    have hp' := readPredicate_unplaced selector position rest
    rw [hp] at hp'
    exact (readTokens_word hk hp').trans ih
  | case7 s t rest hk hfinish =>
    rw [List.map_cons, readTokens_operand]
    simp only [Token.unplaced, hfinish]
    rfl
  | case8 s t rest hk h1 h2 h3 =>
    rw [List.map_cons, readTokens_operand]
    simp only [Token.unplaced, hk]
    cases h : t.lexeme <;> simp_all <;> rfl
  | case9 s t rest j hk hnone =>
    rw [List.map_cons, readTokens]
    simp only [Token.unplaced, hk, Stacks.reduced_unplaced, hnone]
    rfl
  | case10 s t rest j hk s' hsome ih =>
    have hreduce := Stacks.reduced_unplaced (Waiting.junction j).precedence s
    rw [hsome] at hreduce
    exact (readTokens_junction (t := t.unplaced) hk hreduce).trans ih
  | case11 s t rest hclose hnested top waiting operands hs hk ih =>
    obtain ⟨lexeme, position⟩ := t
    cases hclose
    have hreduce := Stacks.reduced_unplaced 0 s
    rw [hs] at hreduce
    exact (readTokens_closeParen (s := s.unplaced) hnested hreduce).trans ih
  | case12 s t rest hclose hnested hk hs =>
    rw [List.map_cons, readTokens]
    simp only [Token.unplaced, hclose, Lexeme.keyword?, Stacks.isNested_unplaced, hnested, if_true,
      Stacks.reduced_unplaced]
    cases hr : Stacks.reduce? 0 s.waiting s.operands with
    | none => rfl
    | some s' =>
      obtain ⟨_ | ⟨top, waiting⟩, operands⟩ := s'
      · rfl
      · exact absurd hr (hs _ _ _)
  | case13 s t rest hclose hnested hk =>
    obtain ⟨lexeme, position⟩ := t
    cases hclose
    exact readTokens_closeParen_alone (by simpa [Stacks.isNested_unplaced] using hnested)
  | case14 s t rest hfinish hnested hk =>
    obtain ⟨lexeme, position⟩ := t
    cases hfinish
    exact readTokens_finish_nested hnested
  | case15 s t rest hfinish hnested e hs hk =>
    obtain ⟨lexeme, position⟩ := t
    cases hfinish
    have hreduce := Stacks.reduced_unplaced 0 s
    rw [hs] at hreduce
    exact readTokens_finish (by simpa [Stacks.isNested_unplaced] using hnested) hreduce
  | case16 s t rest hfinish hnested hk hs =>
    rw [List.map_cons, readTokens]
    simp only [Token.unplaced, hfinish, Lexeme.keyword?, Stacks.isNested_unplaced, hnested,
      Stacks.reduced_unplaced]
    cases hr : Stacks.reduce? 0 s.waiting s.operands with
    | none => rfl
    | some s' =>
      obtain ⟨_ | ⟨w, waiting⟩, _ | ⟨e, _ | ⟨e', operands⟩⟩⟩ := s'
      · rfl
      · exact absurd hr (hs _)
      all_goals rfl
  | case17 s t rest hk hclose hfinish =>
    rw [List.map_cons, readTokens]
    obtain ⟨lexeme, position⟩ := t
    cases lexeme <;> simp_all [Token.unplaced, Lexeme.keyword?] <;> rfl

theorem ofTokens_unplaced (ts : List Token) :
    RawExpr.ofTokens (ts.map Token.unplaced) = readUnplaced (RawExpr.ofTokens ts) := by
  cases ts with
  | nil => exact readTokens_unplaced .operand .empty []
  | cons t ts =>
    obtain ⟨lexeme, position⟩ := t
    cases lexeme with
    | finish => rfl
    | _ => exact readTokens_unplaced .operand .empty (⟨_, position⟩ :: ts)

def parseUnplaced (query : String) : Except SyntaxError RawExpr :=
  ((parseRaw query).map RawExpr.unplaced).mapError SyntaxError.unplaced

theorem parseUnplaced_of_tokenize {query : String} {ts : List Token}
    (h : tokenize query = .ok ts) :
    parseUnplaced query = match RawExpr.ofTokens (ts.map Token.unplaced) with
      | .ok e => .ok e
      | .error (.refused e) => .error e
      | .error .underflow => .error ⟨.unexpectedEnd, 0, operandStart⟩ := by
  rw [ofTokens_unplaced, parseUnplaced, parseRaw, h]
  simp only [bind, Except.bind]
  match RawExpr.ofTokens ts with
  | .ok _ => rfl
  | .error (.refused _) => rfl
  | .error .underflow => rfl

theorem map_unplaced (ts : List Token) :
    ts.map Token.unplaced = (ts.map Token.lexeme).map fun l => ⟨l, 0⟩ := by
  rw [List.map_map]
  rfl

/-- Queries with the same lexemes are read alike, up to positions. -/
theorem parseUnplaced_congr {query query' : String} {ts ts' : List Token}
    (h : tokenize query = .ok ts) (h' : tokenize query' = .ok ts')
    (hlexemes : ts'.map Token.lexeme = ts.map Token.lexeme) :
    parseUnplaced query' = parseUnplaced query := by
  rw [parseUnplaced_of_tokenize h, parseUnplaced_of_tokenize h', map_unplaced, map_unplaced, hlexemes]

/-! ## 4. Queries written anew -/

/-- The texts of the tokens of a query, without its end, spell their lexemes. -/
theorem forall₂_spells {query : String} {ts us : List Token} {spans : List Span}
    (hts : tokenize query = .ok ts) (hus : Ended us) (hsubset : us ⊆ ts)
    (h : List.Forall₂ (Token.StandsFor query.toList) us spans) :
    List.Forall₂ (fun text l => Spells text.toList l)
      (spans.dropLast.map (Span.text query.toList)) (us.dropLast.map Token.lexeme) := by
  induction hus generalizing spans with
  | finish position =>
    obtain _ | ⟨-, ⟨⟩⟩ := h
    exact .nil
  | @cons t us ht hus ih =>
    obtain _ | ⟨hspan, hrest⟩ := h
    rw [List.cons_subset] at hsubset
    -- the end is still to come, so neither list drops its first element
    obtain ⟨u, us, rfl⟩ := List.exists_cons_of_ne_nil hus.ne_nil
    obtain _ | ⟨hnext, hrest'⟩ := hrest
    exact .cons (hspan.spells hts hsubset.1 ht) (ih hsubset.2 (.cons hnext hrest'))

/-- Tokens are the same whatever blanks stand between them.  For every query with tokens, and its
token texts written one after the other with some blanks between each two, the new text has tokens
with the same lexemes, and it is read as the query is: into the same tree, or with the same error, up
to positions. -/
theorem tokenize_respaced {query : String} {ts : List Token} (h : tokenize query = .ok ts) :
    (∃ spans, LosslessFrom query.toList 0 ts spans) ∧
    ∀ spans, LosslessFrom query.toList 0 ts spans → ∀ query' : String,
      Spaced (spans.dropLast.map (Span.text query.toList)) query'.toList →
      (∃ ts', tokenize query' = .ok ts' ∧ ts'.map Token.lexeme = ts.map Token.lexeme) ∧
        parseUnplaced query' = parseUnplaced query := by
  refine ⟨exists_spans_of_tokenize h, fun spans hspans query' hquery' => ?_⟩
  have hspells := forall₂_spells h (ended_of_tokenize h) (List.Subset.refl _) hspans.tokens
  obtain ⟨ts', hlexemes, hts'⟩ := (lexes_of_spaced hquery' hspells).tokenize
  have hsame : List.map Token.lexeme (ts' ++ [⟨.finish, query'.length⟩]) =
      List.map Token.lexeme ts := by
    rw [dropLast_of_tokenize h, List.map_append, List.map_append, hlexemes]
    rfl
  exact ⟨⟨_, hts', hsame⟩, parseUnplaced_congr h hts' hsame⟩

/-- Tokens that touch each other, written anew with a space between each two. -/
theorem tokenize_respaced_touching :
    let query := "!(a is'b')&&c"
    let ts : List Token := [⟨.not, 0⟩, ⟨.openParen, 1⟩, ⟨.word "a", 2⟩, ⟨.word "is", 4⟩,
      ⟨.quoted "b", 6⟩, ⟨.closeParen, 9⟩, ⟨.and, 10⟩, ⟨.word "c", 12⟩, ⟨.finish, 13⟩]
    let spans : List Span := [⟨0, 1⟩, ⟨1, 2⟩, ⟨2, 3⟩, ⟨4, 6⟩, ⟨6, 9⟩, ⟨9, 10⟩, ⟨10, 12⟩, ⟨12, 13⟩,
      ⟨13, 13⟩]
    let query' := "! ( a is 'b' ) && c"
    tokenize query = .ok ts ∧ LosslessFrom query.toList 0 ts spans ∧
      Spaced (spans.dropLast.map (Span.text query.toList)) query'.toList ∧
      (∃ ts', tokenize query' = .ok ts' ∧ ts'.map Token.lexeme = ts.map Token.lexeme) ∧
      parseUnplaced query' = parseUnplaced query := by
  intro query ts spans query'
  have htokens : tokenize query = .ok ts := by decide +kernel
  have htexts : spans.map (Span.text query.toList) =
      ["!", "(", "a", "is", "'b'", ")", "&&", "c", ""] := by decide +kernel
  have hwritten : List.Forall₂ Lexeme.IsWritten (ts.map Token.lexeme)
      (spans.map (Span.text query.toList)) := by
    rw [htexts]
    refine .cons (.sign (l := .not) (by decide)) (.cons (.sign (l := .openParen) (by decide))
      (.cons (.word (by decide)) (.cons (.word (by decide)) (.cons ?_
      (.cons (.sign (l := .closeParen) (by decide)) (.cons (.sign (l := .and) (by decide))
      (.cons (.word (by decide)) (.cons .finish .nil))))))))
    exact @Lexeme.IsWritten.quoted '\'' [.plain 'b'] (by decide) (by simp [QuotedPiece.IsIn])
  rw [List.forall₂_map_left_iff, List.forall₂_map_right_iff] at hwritten
  have hplaced : ∀ pair ∈ ts.zip spans, pair.2.start = pair.1.position ∧
      pair.2.stop ≤ query.toList.length ∧
      (pair.2.start < pair.2.stop ∨ pair.1.lexeme = .finish) := by decide +kernel
  -- outside of the spans there are separators only
  have hblanks : ∀ i : Fin query.toList.length,
      (∀ span ∈ spans, ¬(span.start ≤ i.val ∧ i.val < span.stop)) →
      isSeparator (query.toList.get i) = true := by decide +kernel
  have hspans : LosslessFrom query.toList 0 ts spans := by
    refine ⟨List.forall₂_iff_zip.2 ⟨rfl, fun hpair => ?_⟩, by decide, by decide, ?_⟩
    · obtain ⟨hstart, hstop, hfilled⟩ := hplaced _ hpair
      exact ⟨hstart, hstop, hfilled, List.forall₂_zip hwritten hpair⟩
    · intro i c _ hc houtside
      obtain ⟨hi, rfl⟩ := List.getElem?_eq_some_iff.1 hc
      exact hblanks ⟨i, hi⟩ houtside
  have hquery' : Spaced (spans.dropLast.map (Span.text query.toList)) query'.toList := by
    have hjoined : query' = " ".intercalate (spans.dropLast.map (Span.text query.toList)) := by
      decide +kernel
    rw [hjoined]
    exact spaced_intercalate _
  exact ⟨htokens, hspans, hquery', (tokenize_respaced htokens).2 spans hspans query' hquery'⟩

end FileQuery.Query
