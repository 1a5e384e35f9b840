import FileQuery.Proofs.Query.Spelling
import FileQuery.Proofs.Query.Told

/-!
# Canonical texts of trees are read back

A text is read as a tree when its tokens, at any position, derive by a rule of the grammar an untyped
tree that the check turns into this tree.  If the texts of the predicates of a normal tree are read
back, so is the text of the tree: parentheses stand around every operand that is joined itself, and a
normal tree has no operand that would be taken up into the node around it.
-/

namespace FileQuery.Query

/-! ## 1. Texts of several tokens -/

/-- `s` is scanned as the lexemes `ls` wherever it stands before a break. -/
def Lexes (s : List Char) (ls : List Lexeme) : Prop :=
  ∀ position rest us, Breaks rest → scanTokens (position + s.length) rest = .ok us →
    ∃ ts, ts.map Token.lexeme = ls ∧ scanTokens position (s ++ rest) = .ok (ts ++ us)

/-- The scanner of tokens without the facts that make it end. -/
theorem scanTokens_eq (position : Nat) (s : List Char) : scanTokens position s =
    match skipBlanks position s with
    | (stop, []) => .ok [⟨.finish, stop⟩]
    | (start, c :: rest) =>
      match scanToken start c rest with
      | .error e => .error e
      | .ok t =>
        match scanTokens t.position t.rest with
        | .error e => .error e
        | .ok tokens => .ok (⟨t.value, start⟩ :: tokens) := by
  rw [scanTokens]
  split
  · next h => simp only [h]
  · next h =>
    simp only [h]
    split
    · next ht => simp only [ht]
    · next ht => exact ht ▸ rfl

theorem scanTokens_append {gap : List Char} (hgap : ∀ c ∈ gap, isSeparator c = true)
    (position : Nat) (rest : List Char) :
    scanTokens position (gap ++ rest) = scanTokens (position + gap.length) rest := by
  rw [scanTokens_eq, skipBlanks_append hgap, ← scanTokens_eq]

theorem scanTokens_token {position : Nat} {c : Char} {rest : List Char} {t : Scanned Lexeme}
    {us : List Token} (hc : isSeparator c = false) (ht : scanToken position c rest = .ok t)
    (hus : scanTokens t.position t.rest = .ok us) :
    scanTokens position (c :: rest) = .ok (⟨t.value, position⟩ :: us) := by
  rw [scanTokens_eq, skipBlanks_of_head hc]
  simp only [ht, hus]

theorem scanTokens_nil (position : Nat) : scanTokens position [] = .ok [⟨.finish, position⟩] := by
  rw [scanTokens_eq]
  rfl

theorem scanTokens_gap {gap : List Char} (hgap : ∀ c ∈ gap, isSeparator c = true)
    (position : Nat) : scanTokens position gap = .ok [⟨.finish, position + gap.length⟩] := by
  have hscan := scanTokens_append hgap position []
  rwa [List.append_nil, scanTokens_nil] at hscan

theorem Spells.scanTokens {s : List Char} {l : Lexeme} (h : Spells s l) (position : Nat) :
    Query.scanTokens position s = .ok [⟨l, position⟩, ⟨.finish, position + s.length⟩] := by
  obtain ⟨c, cs, rfl, hc, hscan⟩ := h
  have htoken := hscan position [] .nil
  rw [List.append_nil] at htoken
  exact scanTokens_token hc htoken (scanTokens_nil _)

/-- A text that spells a token is a query of this token. -/
theorem Spells.tokenize {s : String} {l : Lexeme} (h : Spells s.toList l) :
    tokenize s = .ok [⟨l, 0⟩, ⟨.finish, s.length⟩] := by
  rw [Query.tokenize, h.scanTokens, Nat.zero_add, String.length_toList]

theorem Spells.lexes {s : List Char} {l : Lexeme} (h : Spells s l) : Lexes s [l] := by
  obtain ⟨c, cs, rfl, hc, hscan⟩ := h
  intro position rest us hrest hus
  exact ⟨[⟨l, position⟩], rfl, scanTokens_token hc (hscan position rest hrest) hus⟩

namespace Lexes

variable {s t : List Char} {ls ls' : List Lexeme}

theorem nil : Lexes [] [] := fun _ _ _ _ hus => ⟨[], rfl, hus⟩

/-- Two texts with blanks between them. -/
theorem gap {gap : List Char} (hs : Lexes s ls) (hne : gap ≠ [])
    (hgap : ∀ c ∈ gap, isSeparator c = true) (ht : Lexes t ls') :
    Lexes (s ++ (gap ++ t)) (ls ++ ls') := by
  intro position rest us hrest hus
  have hlength : position + s.length + gap.length + t.length =
      position + (s ++ (gap ++ t)).length := by
    simp only [List.length_append]
    omega
  rw [← hlength] at hus
  obtain ⟨ts', rfl, hts'⟩ := ht _ rest us hrest hus
  rw [← scanTokens_append hgap] at hts'
  obtain ⟨ts, rfl, hts⟩ := hs _ _ _ (breaks_append hne hgap _) hts'
  refine ⟨ts ++ ts', List.map_append, ?_⟩
  simpa only [List.append_assoc] using hts

theorem blank (hs : Lexes s ls) (ht : Lexes t ls') : Lexes (s ++ ' ' :: t) (ls ++ ls') :=
  hs.gap (List.cons_ne_nil ' ' []) (List.forall_mem_singleton.2 rfl) ht

theorem parens (hs : Lexes s ls) :
    Lexes ('(' :: (s ++ [')'])) (.openParen :: (ls ++ [.closeParen])) := by
  intro position rest us hrest hus
  have hlength : position + 1 + s.length + 1 = position + ('(' :: (s ++ [')'])).length := by
    simp only [List.length_append, List.length_cons, List.length_nil]
    omega
  rw [← hlength] at hus
  have hclose : scanTokens (position + 1 + s.length) (')' :: rest) =
      .ok (⟨.closeParen, position + 1 + s.length⟩ :: us) :=
    scanTokens_token (t := ⟨.closeParen, position + 1 + s.length + 1, rest⟩) (by decide) rfl hus
  obtain ⟨ts, rfl, hts⟩ := hs _ _ _ (.paren _) hclose
  refine ⟨⟨.openParen, position⟩ :: (ts ++ [⟨.closeParen, position + 1 + s.length⟩]), by simp, ?_⟩
  simp only [List.cons_append, List.append_assoc, List.nil_append]
  exact scanTokens_token (t := ⟨.openParen, position + 1, s ++ ')' :: rest⟩) (by decide) rfl hts

theorem scanToken_bang {position : Nat} {rest : List Char} (h : rest.head? ≠ some '=') :
    scanToken position '!' rest = .ok ⟨.not, position + 1, rest⟩ := by
  rw [scanToken, if_pos (by simpa using h)]
  all_goals simp

theorem bang (hs : Lexes s ls) (hhead : s.head? ≠ some '=') :
    Lexes ('!' :: s) (.not :: ls) := by
  intro position rest us hrest hus
  rw [List.length_cons, Nat.add_comm s.length 1, ← Nat.add_assoc] at hus
  obtain ⟨ts, rfl, hts⟩ := hs _ _ _ hrest hus
  refine ⟨⟨.not, position⟩ :: ts, rfl, ?_⟩
  have hstart : (s ++ rest).head? ≠ some '=' := by
    cases s with
    | cons c s => exact hhead
    | nil =>
      exact hrest.head?_ne (.inr (.inr rfl))
  exact scanTokens_token (by decide) (scanToken_bang hstart) hts

end Lexes

/-! ## 2. Texts of trees -/

/-- Whether an operand ends before these tokens, even a word that may be a selector. -/
def EndsOperand (ts : List Token) : Prop := ∀ t ∈ ts.head?, t.isPlainWord = false

/-- `s` is read as the tree `e` by a rule of the grammar, with any clock. -/
def ReadsAs (stack : Pattern.Stack) (rule : List Token → RawExpr → List Token → Prop)
    (s : List Char) (e : Expr) : Prop :=
  ∃ ls, Lexes s ls ∧ ∀ (clock : Clock) (ts us : List Token), ts.map Token.lexeme = ls →
    EndsOperand us → ∃ raw, rule (ts ++ us) raw us ∧ raw.flat.check (checkPredicate stack clock) = .ok e

namespace Grammar

def Operands : Junction → List Token → List RawExpr → List Token → Prop
  | .and => Conjuncts
  | .or => Disjuncts

/-- `or_expr` as one tree. -/
def Disjunction (ts : List Token) (e : RawExpr) (rest : List Token) : Prop :=
  ∃ es, Disjuncts ts es rest ∧ e = .joined .or es

theorem Operands.last {ts rest : List Token} {e : RawExpr} (j : Junction) (h : Unary ts e rest) :
    Operands j ts [e] rest := by
  cases j with
  | and => exact Conjuncts.last h
  | or => exact Disjuncts.last (.last h)

theorem Operands.more {j : Junction} {t : Token} {ts us rest : List Token} {e : RawExpr}
    {es : List RawExpr} (h : Unary ts e (t :: us)) (ht : t.lexeme.keyword? = some (.junction j))
    (hes : Operands j us es rest) : Operands j ts (e :: es) rest := by
  cases j with
  | and => exact Conjuncts.more h ht hes
  | or => exact Disjuncts.more (.last h) ht hes

theorem Operands.disjunction {j : Junction} {ts rest : List Token} {es : List RawExpr}
    (h : Operands j ts es rest) : Disjunction ts (.joined j es) rest := by
  cases j with
  | and => exact ⟨[.joined .and es], .last h, rfl⟩
  | or => exact ⟨es, h, rfl⟩

end Grammar

namespace ReadsAs

variable {stack : Pattern.Stack} {s : List Char} {e : Expr}

theorem imp {rule rule' : List Token → RawExpr → List Token → Prop} (h : ReadsAs stack rule s e)
    (hrule : ∀ ts raw us, rule ts raw us → rule' ts raw us) : ReadsAs stack rule' s e := by
  obtain ⟨ls, hlexes, hread⟩ := h
  refine ⟨ls, hlexes, fun clock ts us hts hus => ?_⟩
  obtain ⟨raw, hraw, hcheck⟩ := hread clock ts us hts hus
  exact ⟨raw, hrule _ _ _ hraw, hcheck⟩

theorem disjunction (h : ReadsAs stack Grammar.Unary s e) : ReadsAs stack Grammar.Disjunction s e :=
  h.imp fun _ _ _ hunary => (Grammar.Operands.last .or hunary).disjunction

theorem parens (h : ReadsAs stack Grammar.Disjunction s e) :
    ReadsAs stack Grammar.Unary ('(' :: (s ++ [')'])) e := by
  obtain ⟨ls, hlexes, hread⟩ := h
  refine ⟨_, hlexes.parens, fun clock ts us hts hus => ?_⟩
  obtain ⟨⟨_, start⟩, inside, rfl, rfl, hinside⟩ := List.map_eq_cons_iff.1 hts
  obtain ⟨ts, last, rfl, rfl, hlast⟩ := List.map_eq_append_iff.1 hinside
  obtain ⟨⟨_, stop⟩, _, rfl, rfl, hnil⟩ := List.map_eq_cons_iff.1 hlast
  rw [List.map_eq_nil_iff] at hnil
  subst hnil
  -- what stands in the parentheses is read up to the closing one
  obtain ⟨raw, ⟨es, hes, rfl⟩, hcheck⟩ :=
    hread clock ts (⟨.closeParen, stop⟩ :: us) rfl (by simp [EndsOperand, Token.isPlainWord])
  have hprimary : Grammar.Primary (⟨.openParen, start⟩ :: (ts ++ ⟨.closeParen, stop⟩ :: us))
      (.joined .or es) us := .parens hes
  rw [List.cons_append, List.append_assoc]
  exact ⟨_, .primary hprimary, hcheck⟩

theorem bang (h : ReadsAs stack Grammar.Unary s e) (hhead : s.head? ≠ some '=') :
    ReadsAs stack Grammar.Unary ('!' :: s) (.not e) := by
  obtain ⟨ls, hlexes, hread⟩ := h
  refine ⟨_, hlexes.bang hhead, fun clock ts us hts hus => ?_⟩
  obtain ⟨⟨_, start⟩, ts, rfl, rfl, hoperand⟩ := List.map_eq_cons_iff.1 hts
  obtain ⟨raw, hraw, hcheck⟩ := hread clock ts us hoperand hus
  refine ⟨.not raw, .not rfl hraw, ?_⟩
  rw [RawExpr.flat, RawExpr.check, hcheck]
  rfl

end ReadsAs

/-! ## 3. Operands -/

def Junction.lexeme : Junction → Lexeme
  | .and => .and
  | .or => .or

def Junction.sign : Junction → List Char
  | .and => ['&', '&']
  | .or => ['|', '|']

theorem Junction.keyword?_lexeme (j : Junction) : j.lexeme.keyword? = some (.junction j) := by
  cases j <;> rfl

theorem Junction.spells_sign (j : Junction) : Spells j.sign j.lexeme := by
  cases j with
  | and => exact ⟨'&', ['&'], rfl, by decide, fun position rest _ => rfl⟩
  | or => exact ⟨'|', ['|'], rfl, by decide, fun position rest _ => rfl⟩

/-- Operands that are checked to another kind of node are not taken up into the node around them. -/
theorem flatOperands_of_check {ε : Type} {test : RawPredicate → Except ε Predicate} {j : Junction}
    {raws : List RawExpr} {es : List Expr} (h : checkAll test (raws.map RawExpr.flat) = .ok es)
    (hne : ∀ e ∈ es, e.junction? ≠ some j) :
    RawExpr.flatOperands j raws = raws.map RawExpr.flat := by
  induction raws generalizing es with
  | nil => rfl
  | cons raw raws ih =>
    rw [List.map_cons] at h
    obtain ⟨e, fs, he, hfs, rfl⟩ := checkAll_cons_ok.1 h
    rw [List.forall_mem_cons, ← junction?_of_check he] at hne
    rw [RawExpr.flatOperands, RawExpr.operandsOf_of_ne hne.1, ih hfs hne.2]
    rfl

/-- The operands of a node are read back one by one. -/
theorem exists_operands (stack : Pattern.Stack) (j : Junction) (text : Expr → List Char) :
    ∀ es : List Expr, es ≠ [] → (∀ e ∈ es, ReadsAs stack Grammar.Unary (text e) e.reread) →
    ∃ ls, Lexes ((' ' :: (j.sign ++ [' '])).intercalate (es.map text)) ls ∧
      ∀ (clock : Clock) (ts us : List Token), ts.map Token.lexeme = ls → EndsOperand us →
      ∃ raws, Grammar.Operands j (ts ++ us) raws us ∧
        checkAll (checkPredicate stack clock) (raws.map RawExpr.flat) = .ok (es.map Expr.reread)
  | [], hne, _ => absurd rfl hne
  | [e], _, h => by
    obtain ⟨ls, hlexes, hread⟩ := h e List.mem_cons_self
    refine ⟨ls, by simpa using hlexes, fun clock ts us hts hus => ?_⟩
    obtain ⟨raw, hraw, hcheck⟩ := hread clock ts us hts hus
    refine ⟨[raw], .last j hraw, ?_⟩
    rw [List.map_singleton]
    exact checkAll_cons_ok.2 ⟨e.reread, [], hcheck, rfl, rfl⟩
  | e :: f :: es, _, h => by
    rw [List.forall_mem_cons] at h
    obtain ⟨ls, hlexes, hread⟩ := h.1
    obtain ⟨ls', hlexes', hreads⟩ := exists_operands stack j text (f :: es) (by simp) h.2
    refine ⟨ls ++ ([j.lexeme] ++ ls'), ?_, fun clock ts us hts hus => ?_⟩
    · have hall := hlexes.blank (j.spells_sign.lexes.blank hlexes')
      simpa [List.intercalate_cons_cons] using hall
    · obtain ⟨ts, more, rfl, hfirst, hmore⟩ := List.map_eq_append_iff.1 hts
      obtain ⟨t, ts', rfl, ht, hothers⟩ := List.map_eq_cons_iff.1 hmore
      -- the sign after the first operand is no plain word, so a lone word ends there
      obtain ⟨raws, hraws, hchecks⟩ := hreads clock ts' us hothers hus
      have hkeyword : t.lexeme.keyword? = some (.junction j) := ht ▸ j.keyword?_lexeme
      have hends : EndsOperand (t :: (ts' ++ us)) := by
        intro u hu
        cases hu
        cases j <;> simp [Token.isPlainWord, ht, Junction.lexeme]
      obtain ⟨raw, hraw, hcheck⟩ := hread clock ts (t :: (ts' ++ us)) hfirst hends
      refine ⟨raw :: raws, ?_, ?_⟩
      · rw [List.append_assoc]
        exact .more hraw hkeyword hraws
      · rw [List.map_cons]
        exact checkAll_cons_ok.2 ⟨e.reread, (f :: es).map Expr.reread, hcheck, hchecks, rfl⟩

/-! ## 4. Trees -/

theorem textsOf_eq_map (es : List Expr) : textsOf es = es.map fun e => e.wrap e.text := by
  induction es with
  | nil => rfl
  | cons e es ih => rw [textsOf, ih, List.map_cons]

theorem toList_text_and (es : List Expr) : (Expr.and es).text.toList =
    (' ' :: (Junction.and.sign ++ [' '])).intercalate (es.map fun e => (e.wrap e.text).toList) := by
  rw [Expr.text, String.toList_intercalate, textsOf_eq_map, List.map_map]
  rfl

theorem toList_text_or (es : List Expr) : (Expr.or es).text.toList =
    (' ' :: (Junction.or.sign ++ [' '])).intercalate (es.map fun e => (e.wrap e.text).toList) := by
  rw [Expr.text, String.toList_intercalate, textsOf_eq_map, List.map_map]
  rfl

theorem toList_wrap_of_isJoined {e : Expr} (h : e.isJoined = true) (text : String) :
    (e.wrap text).toList = '(' :: (text.toList ++ [')']) := by
  rw [Expr.wrap, if_pos h]
  simp

theorem wrap_of_not_isJoined {e : Expr} (h : e.isJoined = false) (text : String) :
    e.wrap text = text := by
  rw [Expr.wrap, if_neg (by simp [h])]

section rereading

variable {stack : Pattern.Stack}

/-- The operands of a node are read back as its operands and not as more than these. -/
theorem reads_node {j : Junction} {es : List Expr} {node : List Expr → Expr}
    (hnode : ∀ (clock : Clock) raws fs, checkAll (checkPredicate stack clock) raws = .ok fs →
      (RawExpr.join j raws).check (checkPredicate stack clock) = .ok (node fs))
    (hlength : 2 ≤ es.length) (hne : ∀ e ∈ es, e.junction? ≠ some j)
    (hes : ∀ e ∈ es, ReadsAs stack Grammar.Unary (e.wrap e.text).toList e.reread) :
    ReadsAs stack Grammar.Disjunction ((' ' :: (j.sign ++ [' '])).intercalate
      (es.map fun e => (e.wrap e.text).toList)) (node (rereadAll es)) := by
  have hnil : es ≠ [] := by
    rintro rfl
    simp at hlength
  obtain ⟨ls, hlexes, hread⟩ :=
    exists_operands stack j (fun e => (e.wrap e.text).toList) es hnil hes
  refine ⟨ls, hlexes, fun clock ts us hts hus => ?_⟩
  obtain ⟨raws, hraws, hcheck⟩ := hread clock ts us hts hus
  refine ⟨_, hraws.disjunction, ?_⟩
  -- several operands stay several, so the node is not taken for its only operand
  have hraws2 : 2 ≤ raws.length := by
    have hsame := (exists_of_checkAll hcheck).1
    rw [List.length_map, List.length_map] at hsame
    omega
  have hreread : ∀ e ∈ es.map Expr.reread, e.junction? ≠ some j := by
    rw [List.forall_mem_map]
    exact fun e he => (junction?_reread e).symm ▸ hne e he
  have hflat := flatOperands_of_check hcheck hreread
  rw [rereadAll_eq_map]
  match raws, hraws2 with
  | r :: r' :: raws, _ =>
    rw [RawExpr.joined, RawExpr.flat_join, hflat]
    · exact hnode clock _ _ hcheck
    · simp

/-- A predicate whose canonical text is read back, also after a bang. -/
structure Predicate.Rereads (stack : Pattern.Stack) (p : Predicate) : Prop where
  reads : ReadsAs stack Grammar.Primary p.text.toList (.pred p.reread)
  head : p.text.toList.head? ≠ some '='

/-- The text of a tree is read back where nothing stands around it, and in parentheses where they
belong it is read back as an operand. -/
structure Expr.Rereads (stack : Pattern.Stack) (e : Expr) : Prop where
  whole : ReadsAs stack Grammar.Disjunction e.text.toList e.reread
  operand : ReadsAs stack Grammar.Unary (e.wrap e.text).toList e.reread
  head : (e.wrap e.text).toList.head? ≠ some '='

theorem Expr.Rereads.of_operand {e : Expr} (he : e.isJoined = false)
    (h : ReadsAs stack Grammar.Unary e.text.toList e.reread)
    (hhead : e.text.toList.head? ≠ some '=') : e.Rereads stack := by
  have hwrap := wrap_of_not_isJoined he e.text
  exact ⟨h.disjunction, hwrap.symm ▸ h, hwrap.symm ▸ hhead⟩

theorem Expr.Rereads.of_joined {e : Expr} (he : e.isJoined = true)
    (h : ReadsAs stack Grammar.Disjunction e.text.toList e.reread) : e.Rereads stack := by
  have hwrap := toList_wrap_of_isJoined he e.text
  refine ⟨h, hwrap.symm ▸ h.parens, ?_⟩
  rw [hwrap]
  simp

theorem Expr.Normal.rereads {e : Expr} (h : e.Normal (Predicate.Rereads stack)) :
    e.Rereads stack := by
  induction h with
  | pred hp =>
    refine .of_operand rfl (hp.reads.imp fun _ _ _ hprimary => .primary hprimary) hp.head
  | @not e _ ih =>
    have htext : (Expr.not e).text.toList = '!' :: (e.wrap e.text).toList := by
      simp [Expr.text]
    -- what is negated is an operand, with parentheses if it needs them
    refine .of_operand rfl ?_ ?_
    · rw [htext]
      exact ih.operand.bang ih.head
    · rw [htext]
      simp
  | @and es hlength _ hne ih =>
    refine .of_joined rfl ?_
    rw [toList_text_and]
    refine reads_node (fun clock raws fs hraws => ?_) hlength hne fun e he => (ih e he).operand
    rw [RawExpr.join, RawExpr.check, hraws]
    rfl
  | @or es hlength _ hne ih =>
    refine .of_joined rfl ?_
    rw [toList_text_or]
    refine reads_node (fun clock raws fs hraws => ?_) hlength hne fun e he => (ih e he).operand
    rw [RawExpr.join, RawExpr.check, hraws]
    rfl

end rereading

end FileQuery.Query
