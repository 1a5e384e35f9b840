import FileQuery.Proofs.Query.Cutting

/-!
# What errors of syntax expect

An error of syntax points at a token.  The tokens before it leave the reader at one of its turns, with
stacks that do not depend on what follows; the error lists what the reader takes at that turn.  So with
a token of a listed kind in this place the reader goes on.  The end of the query is listed behind every
operand, though it is taken only where no parenthesis is open.
-/

namespace FileQuery.Query

/-! ## 1. Where the reader refuses -/

/-- Having read `before`, the reader is at another turn with other stacks, whatever follows.  Only a
lone selector looks ahead, so at the turn of an operator no operator word may follow. -/
def Leads (turn : Turn) (s : Stacks) (before : List Token) (turn' : Turn) (s' : Stacks) : Prop :=
  ∀ us, (turn' = .operator → EndsOperand us) →
    readTokens turn s (before ++ us) = readTokens turn' s' us

/-- What the reader expects at a turn with some stacks, behind tokens that it has looked at but not
taken in. -/
inductive Awaits : Turn → Stacks → List Token → List Expected → Prop
  | operand (s : Stacks) : Awaits .operand s [] operandStart
  | value (s : Stacks) {selector operator : String} (place place' : Nat) :
      keywordOf? selector = none → keywordOf? operator = none →
      Awaits .operand s [⟨.word selector, place⟩, ⟨.word operator, place'⟩] [.value]
  | operator (s : Stacks) : Awaits .operator s [] (operandEnd s)
  | closing {s : Stacks} : s.isNested = true → Awaits .operator s [] [.closeParen]

/-- Reading tokens ends with an error at one of them: those before lead to a turn where something else
is expected. -/
def StopsAt (turn : Turn) (s : Stacks) (ts : List Token) (e : SyntaxError) : Prop :=
  ∃ before front t after turn' s', ts = before ++ (front ++ t :: after) ∧ e.position = t.position ∧
    (before = [] → turn' = turn) ∧ s'.Ready turn' ∧ Leads turn s before turn' s' ∧
    Awaits turn' s' front e.expected

namespace StopsAt

variable {turn turn' : Turn} {s s' : Stacks} {t : Token} {ts : List Token} {e : SyntaxError}

theorem refused {cause : SyntaxCause} {expected : List Expected} (hs : s.Ready turn)
    (h : Awaits turn s [] expected) : StopsAt turn s (t :: ts) ⟨cause, t.position, expected⟩ :=
  ⟨[], [], t, ts, turn, s, rfl, rfl, fun _ => rfl, hs, fun _ _ => rfl, h⟩

/-- A step of the reader, and what it comes to from there. -/
theorem step (h : StopsAt turn' s' ts e) (front : List Token) (hne : front ≠ [])
    (hstep : ∀ us, (turn' = .operator → EndsOperand ts → EndsOperand us) →
      readTokens turn s (front ++ us) = readTokens turn' s' us) :
    StopsAt turn s (front ++ ts) e := by
  obtain ⟨before, waiting, t, after, turn'', s'', rfl, hposition, hturn, hready, hleads, hawaits⟩ := h
  refine ⟨front ++ before, waiting, t, after, turn'', s'', (List.append_assoc ..).symm, hposition,
    fun hnil => absurd (List.append_eq_nil_iff.1 hnil).1 hne, hready, fun us hus => ?_, hawaits⟩
  rw [List.append_assoc, hstep (before ++ us), hleads us hus]
  intro hoperator hends
  cases before with
  | nil => exact hus ((hturn rfl).trans hoperator)
  | cons u before => exact hends

theorem mem (h : StopsAt turn s ts e) : ∃ t ∈ ts, e.position = t.position := by
  obtain ⟨before, front, t, after, -, -, rfl, hposition, -⟩ := h
  exact ⟨t, by simp, hposition⟩

end StopsAt

/-- The tokens of a predicate are read alike before whatever ends an operand as well. -/
theorem Grammar.Predicate.exists_front {ts rest : List Token} {p : RawPredicate}
    (h : Predicate ts p rest) : ∃ front, ts = front ++ rest ∧ front ≠ [] ∧
      ∀ us, (EndsOperand rest → EndsOperand us) → Predicate (front ++ us) p us := by
  cases h with
  | @alone word position _ hword hrest =>
    exact ⟨[⟨.word word, position⟩], rfl, List.cons_ne_nil _ _, fun us hus => .alone hword (hus hrest)⟩
  | @comparison word operator position place t value _ hword hoperator hvalue =>
    exact ⟨[⟨.word word, position⟩, ⟨.word operator, place⟩, t], rfl, List.cons_ne_nil _ _,
      fun us _ => .comparison hword hoperator hvalue⟩

/-- What follows a selector is refused only where an operator word has no value behind it. -/
theorem exists_of_readPredicate {selector : String} {position : Nat} {ts : List Token}
    {e : SyntaxError} (h : readPredicate selector position ts = .error (.refused e)) :
    ∃ operator place t rest, ts = ⟨.word operator, place⟩ :: t :: rest ∧
      keywordOf? operator = none ∧ e = ⟨.missingValue operator, t.position, [.value]⟩ := by
  unfold readPredicate at h
  split at h
  · next operator place rest =>
    split at h
    · cases h
    · next hoperator =>
      split at h
      · cases h
      · next t rest =>
        split at h
        · cases h
          exact ⟨operator, place, t, rest, rfl, by simpa using hoperator, rfl⟩
        · cases h
  · cases h

theorem stopsAt_of_readTokens {turn : Turn} {s : Stacks} {ts : List Token} {e : SyntaxError}
    (hts : Ended ts) (hs : s.Ready turn) (h : readTokens turn s ts = .error (.refused e)) :
    StopsAt turn s ts e := by
  -- along the reader, one step at a time; the stacks stay ready
  fun_induction readTokens turn s ts with
  | case1 => cases h
  | case2 s t rest hk ih =>
    refine (ih (hts.tail_of_keyword hk) hs h).step [t] (List.cons_ne_nil _ _) fun us _ => ?_
    exact readTokens_not hk
  | case3 s t rest j hk =>
    cases h
    exact .refused hs (.operand s)
  | case4 s t rest hk hopen ih =>
    obtain ⟨lexeme, position⟩ := t
    cases hopen
    obtain _ | ⟨-, hrest⟩ := hts
    refine (ih hrest hs h).step [⟨.openParen, position⟩] (List.cons_ne_nil _ _)
      fun us _ => ?_
    exact readTokens_openParen
  | case5 s t rest hk selector hword fault hp =>
    obtain ⟨lexeme, position⟩ := t
    cases hword
    cases h
    obtain ⟨operator, place, t, rest, rfl, hoperator, rfl⟩ := exists_of_readPredicate hp
    exact ⟨[], _, t, rest, .operand, s, rfl, rfl, fun _ => rfl, hs, fun _ _ => rfl,
      .value s position place hk hoperator⟩
  | case6 s t rest hk selector hword p rest' hp ih =>
    obtain ⟨lexeme, position⟩ := t
    cases hword
    have hpredicate := Grammar.predicate_of_readPredicate hk hp
    obtain ⟨front, hfront, hne, hagain⟩ := hpredicate.exists_front
    rw [hfront]
    refine (ih (hpredicate.ended hts).1 (hs.push _) h).step front hne fun us hus => ?_
    exact (hagain us (hus rfl)).read s
  | case7 s t rest hk hfinish =>
    cases h
    exact .refused hs (.operand s)
  | case8 s t rest hk h1 h2 h3 =>
    cases h
    exact .refused hs (.operand s)
  | case9 => cases h
  | case10 s t rest j hk s₁ hsome ih =>
    obtain ⟨s', hs', hbalanced, -⟩ := hs.reduce? (Waiting.junction j).precedence
    rw [hsome] at hs'
    cases hs'
    refine (ih (hts.tail_of_keyword hk) (.wait_junction hbalanced j) h).step [t]
      (List.cons_ne_nil _ _) fun us _ => ?_
    exact readTokens_junction hk hsome
  | case11 s t rest hclose hnested top waiting operands hreduce hk ih =>
    obtain ⟨waiting', operands', hs', hbalanced⟩ := hs.reduce?_nested hnested
    rw [hreduce] at hs'
    cases hs'
    obtain ⟨lexeme, position⟩ := t
    cases hclose
    obtain _ | ⟨-, hrest⟩ := hts
    refine (ih hrest hbalanced h).step [⟨.closeParen, position⟩] (List.cons_ne_nil _ _)
      fun us _ => ?_
    exact readTokens_closeParen hnested hreduce
  | case12 => cases h
  | case13 s t rest hclose hnested hk =>
    cases h
    exact .refused hs (.operator s)
  | case14 s t rest hfinish hnested hk =>
    cases h
    exact .refused hs (.closing hnested)
  | case15 => cases h
  | case16 => cases h
  | case17 s t rest hk hclose hfinish =>
    cases h
    exact .refused hs (.operator s)

/-! ## 2. What the reader takes -/

/-- The tokens of a kind that may be expected where a token is.  Keywords may be in any case. -/
def Expected.Admits : Expected → Lexeme → Prop
  | .selector, .word w => keywordOf? w = none
  | .openParen, l => l = .openParen
  | .closeParen, l => l = .closeParen
  | .bang, l => l = .not
  | .notWord, .word w => keywordOf? w = some .not
  | .value, .word _ => True
  | .value, .quoted _ => True
  | .value, .set .. => True
  | .andSign, l => l = .and
  | .orSign, l => l = .or
  | .andWord, .word w => keywordOf? w = some (.junction .and)
  | .orWord, .word w => keywordOf? w = some (.junction .or)
  | _, _ => False

/-- An error of reading is at one of the given tokens. -/
def RefusedAmong (ts : List Token) (r : Except ReadStop RawExpr) : Prop :=
  ∀ e, r = .error (.refused e) → ∃ t ∈ ts, e.position = t.position

theorem refusedAmong_readTokens {turn : Turn} {s : Stacks} {ts : List Token} (hts : Ended ts)
    (hs : s.Ready turn) : RefusedAmong ts (readTokens turn s ts) :=
  fun _ h => (stopsAt_of_readTokens hts hs h).mem

section takes

variable {s : Stacks} {k : Expected} {l : Lexeme} {position : Nat} {rest : List Token}

theorem RefusedAmong.mono {ts us : List Token} {r : Except ReadStop RawExpr}
    (h : RefusedAmong ts r) (hsubset : ts ⊆ us) : RefusedAmong us r := fun e he => by
  obtain ⟨t, ht, hposition⟩ := h e he
  exact ⟨t, hsubset ht, hposition⟩

/-- A selector is never refused itself: an error is behind it. -/
theorem refusedAmong_selector {w : String} (hw : keywordOf? w = none) (hrest : Ended rest)
    (hs : s.Ready .operand) :
    RefusedAmong rest (readTokens .operand s (⟨.word w, position⟩ :: rest)) := by
  cases hp : readPredicate w position rest with
  | ok r =>
    obtain ⟨p, us⟩ := r
    have hpredicate := Grammar.predicate_of_readPredicate hw hp
    obtain ⟨front, hfront, hne, -⟩ := hpredicate.exists_front
    -- the selector is among the tokens that are read
    have hsubset : us ⊆ rest := by
      cases front with
      | nil => exact absurd rfl hne
      | cons t front =>
        rw [List.cons_append, List.cons_eq_cons] at hfront
        exact hfront.2 ▸ List.subset_append_right _ _
    rw [readTokens_word hw hp]
    exact (refusedAmong_readTokens (hpredicate.ended (.cons (by simp) hrest)).1
      (hs.push _)).mono hsubset
  | error fault =>
    intro e he
    rw [readTokens_word_error hw hp] at he
    cases he
    obtain ⟨operator, place, t, us, rfl, -, rfl⟩ := exists_of_readPredicate hp
    exact ⟨t, by simp, rfl⟩

theorem refusedAmong_operand (hk : k ∈ operandStart) (hl : k.Admits l) (hrest : Ended rest)
    (hs : s.Ready .operand) :
    RefusedAmong rest (readTokens .operand s (⟨l, position⟩ :: rest)) := by
  simp only [operandStart, List.mem_cons, List.not_mem_nil, or_false] at hk
  rcases hk with rfl | rfl | rfl | rfl
  · cases l with
    | word w => exact refusedAmong_selector hl hrest hs
    | _ => cases hl
  · obtain rfl : l = .openParen := hl
    rw [readTokens_openParen]
    exact refusedAmong_readTokens hrest hs
  · obtain rfl : l = .not := hl
    rw [readTokens_not rfl]
    exact refusedAmong_readTokens hrest hs
  · cases l with
    | word w =>
      rw [readTokens_not (t := ⟨.word w, position⟩) hl]
      exact refusedAmong_readTokens hrest hs
    | _ => cases hl

/-- The value behind an operator is never refused. -/
theorem refusedAmong_value {selector operator : String} {place place' : Nat}
    (hselector : keywordOf? selector = none) (hoperator : keywordOf? operator = none)
    (hl : Expected.Admits .value l) (hrest : Ended rest) (hs : s.Ready .operand) :
    RefusedAmong rest (readTokens .operand s
      (⟨.word selector, place⟩ :: ⟨.word operator, place'⟩ :: ⟨l, position⟩ :: rest)) := by
  obtain ⟨value, hvalue⟩ : ∃ value, Token.value? ⟨l, position⟩ = some value := by
    cases l with
    | word | quoted | set => exact ⟨_, rfl⟩
    | _ => cases hl
  have hpredicate : Grammar.Predicate
      (⟨.word selector, place⟩ :: ⟨.word operator, place'⟩ :: ⟨l, position⟩ :: rest) _ rest :=
    .comparison hselector hoperator hvalue
  rw [hpredicate.read s]
  exact refusedAmong_readTokens hrest (hs.push _)

theorem refusedAmong_closeParen (hnested : s.isNested = true) (hrest : Ended rest)
    (hs : s.Ready .operator) :
    RefusedAmong rest (readTokens .operator s (⟨.closeParen, position⟩ :: rest)) := by
  obtain ⟨waiting, operands, hreduce, hbalanced⟩ := hs.reduce?_nested hnested
  rw [readTokens_closeParen hnested hreduce]
  exact refusedAmong_readTokens hrest hbalanced

/-- What may follow an operand is a combinator, or a parenthesis that closes an open one. -/
theorem junction_or_closeParen (hk : k ∈ operandEnd s) (hl : k.Admits l) :
    (∃ j, l.keyword? = some (.junction j)) ∨ l = .closeParen ∧ s.isNested = true := by
  rw [operandEnd, List.mem_append] at hk
  rcases hk with hk | hk
  · left
    simp only [List.mem_cons, List.not_mem_nil, or_false] at hk
    -- combinators as signs and as words; the end of the query is no token of a lexeme
    rcases hk with rfl | rfl | rfl | rfl | rfl
    · exact ⟨.and, by rw [show l = .and from hl]; rfl⟩
    · exact ⟨.or, by rw [show l = .or from hl]; rfl⟩
    · cases l with
      | word w => exact ⟨.and, hl⟩
      | _ => cases hl
    · cases l with
      | word w => exact ⟨.or, hl⟩
      | _ => cases hl
    · cases l <;> cases hl
  · right
    split at hk
    · next hnested =>
      rw [List.mem_singleton] at hk
      subst hk
      exact ⟨hl, hnested⟩
    · cases hk

/-- Whatever is expected is taken where it is expected: an error is behind it. -/
theorem Awaits.refusedAmong {turn : Turn} {front : List Token} {expected : List Expected}
    (h : Awaits turn s front expected) (hs : s.Ready turn) (hk : k ∈ expected) (hl : k.Admits l)
    (hrest : Ended rest) :
    RefusedAmong rest (readTokens turn s (front ++ ⟨l, position⟩ :: rest)) := by
  -- by what the reader waits for
  cases h with
  | operand => exact refusedAmong_operand hk hl hrest hs
  | value _ place place' hselector hoperator =>
    rw [List.mem_singleton] at hk
    subst hk
    exact refusedAmong_value hselector hoperator hl hrest hs
  | operator =>
    rcases junction_or_closeParen hk hl with ⟨j, hj⟩ | ⟨rfl, hnested⟩
    · obtain ⟨s', hs', hbalanced, -⟩ := hs.reduce? (Waiting.junction j).precedence
      rw [List.nil_append, readTokens_junction hj hs']
      exact refusedAmong_readTokens hrest (.wait_junction hbalanced j)
    · exact refusedAmong_closeParen hnested hrest hs
  | closing hnested =>
    rw [List.mem_singleton] at hk
    subst hk
    obtain rfl : l = .closeParen := hl
    exact refusedAmong_closeParen hnested hrest hs

end takes

/-! ## 3. Queries -/

def cutAt (query : String) (position : Nat) : String :=
  String.ofList (query.toList.take position)

theorem exists_readTokens_of_parseRaw {query : String} {ts : List Token} {e : SyntaxError}
    (h : tokenize query = .ok ts) (he : parseRaw query = .error e) :
    ∃ cause, readTokens .operand .empty ts = .error (.refused ⟨cause, e.position, e.expected⟩) := by
  rw [parseRaw, h] at he
  simp only [bind, Except.bind] at he
  cases hread : RawExpr.ofTokens ts with
  | ok raw => rw [hread] at he; cases he
  | error stop =>
    cases stop with
    | underflow => exact absurd hread (ofTokens_ne_underflow (ended_of_tokenize h))
    | refused e' =>
      rw [hread] at he
      cases he
      unfold RawExpr.ofTokens at hread
      split at hread
      · cases hread
        exact ⟨.unexpectedEnd, by rw [readTokens]; rfl⟩
      · exact ⟨e.cause, hread⟩

theorem stopsAt_of_parseRaw {query : String} {ts : List Token} {e : SyntaxError}
    (h : tokenize query = .ok ts) (he : parseRaw query = .error e) :
    StopsAt .operand .empty ts e := by
  obtain ⟨cause, hread⟩ := exists_readTokens_of_parseRaw h he
  have hempty : Stacks.empty.Ready .operand := rfl
  have hstops := stopsAt_of_readTokens (ended_of_tokenize h) hempty hread
  exact hstops

theorem Expected.Admits.ne_finish {k : Expected} {l : Lexeme} (h : k.Admits l) : l ≠ .finish := by
  rintro rfl
  cases k <;> cases h

theorem Awaits.endsOperand {turn : Turn} {s : Stacks} {front rest : List Token}
    {expected : List Expected} (h : Awaits turn s front expected) {k : Expected} {l : Lexeme}
    (hk : k ∈ expected) (hl : k.Admits l) (position : Nat) (hturn : turn = .operator) :
    EndsOperand (front ++ ⟨l, position⟩ :: rest) := by
  rw [EndsOperand]
  cases h with
  | operand => cases hturn
  | value => cases hturn
  | operator =>
    rintro t ⟨⟩
    rcases junction_or_closeParen hk hl with ⟨j, hj⟩ | ⟨rfl, -⟩
    · cases l with
      | word w => simp [Token.isPlainWord, show keywordOf? w = _ from hj]
      | _ => rfl
    · rfl
  | closing =>
    rw [List.mem_singleton] at hk
    subst hk
    obtain rfl : l = .closeParen := hl
    rintro t ⟨⟩
    rfl

/-- A query in which an expected token comes where it is expected is refused behind it, if at all. -/
theorem lt_of_parseRaw_error {query : String} {before front rest : List Token} {turn : Turn}
    {s : Stacks} {expected : List Expected} {k : Expected} {l : Lexeme} {position : Nat}
    {e : SyntaxError} (hleads : Leads .operand .empty before turn s) (hs : s.Ready turn)
    (hawaits : Awaits turn s front expected) (hk : k ∈ expected) (hl : k.Admits l)
    (h : tokenize query = .ok (before ++ (front ++ ⟨l, position⟩ :: rest)))
    (he : parseRaw query = .error e) : position < e.position := by
  have hrest : Ended rest := by
    have hended := ended_of_tokenize h
    rw [← List.append_assoc] at hended
    cases hended.of_append (List.cons_ne_nil _ _) with
    | finish => exact absurd rfl hl.ne_finish
    | cons _ hrest => exact hrest
  obtain ⟨cause, hread⟩ := exists_readTokens_of_parseRaw h he
  rw [hleads _ (hawaits.endsOperand hk hl position)] at hread
  obtain ⟨t, ht, hposition⟩ := hawaits.refusedAmong hs hk hl hrest _ hread
  have hordered := pairwise_of_tokenize h
  rw [← List.append_assoc] at hordered
  have hlater := (List.pairwise_cons.1 (List.pairwise_append.1 hordered).2.1).1 t ht
  exact hposition ▸ hlater

section front

variable {front : String} {before : List Token} {text : String} {l : Lexeme}

theorem tokenize_spaced (hfront : tokenize front = .ok (before ++ [⟨.finish, front.length⟩]))
    (htext : Spells text.toList l) {gap : String} (hne : gap ≠ "")
    (hgap : ∀ c ∈ gap.toList, isSeparator c = true) :
    tokenize (front ++ gap ++ text) = .ok (before ++ [⟨l, front.length + gap.length⟩,
      ⟨.finish, front.length + gap.length + text.length⟩]) := by
  have hgap' : gap.toList ≠ [] := by simpa using hne
  have hrest := scanTokens_append hgap (0 + front.toList.length) text.toList
  rw [htext.scanTokens, Nat.zero_add] at hrest
  rw [tokenize, String.toList_append, String.toList_append, List.append_assoc]
  rw [← Nat.zero_add front.toList.length] at hrest
  have hall := (scans_of_scanTokens hfront).append (breaks_append hgap' hgap _) hrest
  simpa only [String.length_toList, Nat.zero_add] using hall

/-- A token that is written right behind a front is not refused where it starts: either it is the next
token, or no token starts there. -/
theorem position_ne_of_touching (hfront : tokenize front = .ok (before ++ [⟨.finish, front.length⟩]))
    (htext : Spells text.toList l)
    (hnext : ∀ rest, tokenize (front ++ text) = .ok (before ++ ⟨l, front.length⟩ :: rest) →
      ∀ e, parseRaw (front ++ text) = .error e → front.length < e.position)
    {e : SyntaxError} (he : parseRaw (front ++ text) = .error e) : e.position ≠ front.length := by
  cases hts : tokenize (front ++ text) with
  | error e' =>
    have he' : parseRaw (front ++ text) = .error e' := by rw [parseRaw, hts]; rfl
    cases he.symm.trans he'
    rw [tokenize, String.toList_append] at hts
    have hlow := (scans_of_scanTokens hfront).lt_of_error htext hts
    rw [Nat.zero_add, String.length_toList] at hlow
    exact hlow.ne'
  | ok ts =>
    intro hposition
    obtain ⟨t, ht, hplace⟩ := (stopsAt_of_parseRaw hts he).mem
    obtain ⟨before', after, rfl⟩ := List.append_of_mem ht
    have hsplit := hts
    rw [tokenize, String.toList_append] at hsplit
    obtain ⟨front', rest, hwhole, hlength, hbefore, hafter⟩ := (scans_of_scanTokens hsplit).split
    -- the cut is behind the front, so the tokens before it are those of the front
    have hsame : front.toList.length = front'.length := by
      rw [String.length_toList]
      omega
    obtain ⟨rfl, rfl⟩ := List.append_inj hwhole hsame
    rw [htext.scanTokens] at hafter
    obtain ⟨htoken, -⟩ := List.cons_eq_cons.1 (Except.ok.inj hafter)
    obtain ⟨rfl, -⟩ := List.append_inj' (Except.ok.inj (hfront.symm.trans hbefore)) rfl
    have hplace' : t.position = front.length := hplace.symm.trans hposition
    rw [← htoken, hplace'] at hts
    exact (hnext after hts e he).ne' hposition

end front

/-- What is expected behind a front, which has the tokens `before`, is taken there.  A token of its
kind is named by its spelling.  Wherever such a token comes next the query is not refused before that
or at it; and it does come next where it is written behind blanks.  Written right behind the front it
may become a part of another token, but nothing is refused at the end of the front. -/
structure Expected.IsTaken (k : Expected) (front : String) (before : List Token) : Prop where
  named : ∃ l, k.Admits l ∧ Spells k.spelling.toList l
  next : ∀ l, k.Admits l → ∀ query position rest,
    tokenize query = .ok (before ++ ⟨l, position⟩ :: rest) →
    ∀ e, parseRaw query = .error e → position < e.position
  spaced : ∀ l, k.Admits l → ∀ text gap : String, Spells text.toList l → gap ≠ "" →
    (∀ c ∈ gap.toList, isSeparator c = true) →
    tokenize (front ++ gap ++ text) = .ok (before ++ [⟨l, front.length + gap.length⟩,
      ⟨.finish, front.length + gap.length + text.length⟩])
  touching : ∀ l, k.Admits l → ∀ text : String, Spells text.toList l →
    ∀ e, parseRaw (front ++ text) = .error e → e.position ≠ front.length

theorem spells_plain {w : String} (hne : w ≠ "") (hbang : w.toList.head? ≠ some '!')
    (h : ∀ c ∈ w.toList, isWordChar c = true) : Spells w.toList (.word w) := by
  obtain ⟨c, s, hw⟩ := List.exists_cons_of_ne_nil (show w.toList ≠ [] by simpa using hne)
  rw [hw] at h hbang ⊢
  have hspells := spells_of_isWordChar (fun hc => absurd (hc ▸ rfl) hbang) h
  rw [← hw, String.ofList_toList] at hspells
  rwa [hw] at hspells

def tokenKinds : List Expected :=
  operandStart ++ [.value, .andSign, .orSign, .andWord, .orWord, .closeParen]

/-- A kind of tokens is named by a token of this kind. -/
theorem exists_spells_of_kind : ∀ k ∈ tokenKinds, ∃ l, k.Admits l ∧ Spells k.spelling.toList l := by
  have hword : ∀ {k : Expected}, k.Admits (.word k.spelling) → k.spelling ≠ "" →
      k.spelling.toList.head? ≠ some '!' → k.spelling.toList.all isWordChar = true →
      ∃ l, k.Admits l ∧ Spells k.spelling.toList l :=
    fun hadmits hne hbang h => ⟨_, hadmits, spells_plain hne hbang (List.all_eq_true.1 h)⟩
  simp only [tokenKinds, operandStart, List.cons_append, List.nil_append, List.forall_mem_cons,
    List.not_mem_nil, false_implies, implies_true, and_true]
  refine ⟨?_, ?_, ?_, ?_, ?_, ?_, ?_, ?_, ?_, ?_⟩
  · exact hword (show keywordOf? "selector" = none by decide) (by decide) (by decide) (by decide)
  · exact ⟨.openParen, rfl, _, _, rfl, rfl, fun _ _ _ => rfl⟩
  · exact ⟨.not, rfl, _, _, rfl, rfl,
      fun _ _ hrest => Lexes.scanToken_bang (hrest.head?_ne (.inr (.inr rfl)))⟩
  · exact hword (show keywordOf? "NOT" = _ by decide) (by decide) (by decide) (by decide)
  · exact hword trivial (by decide) (by decide) (by decide)
  · exact ⟨.and, rfl, _, _, rfl, rfl, fun _ _ _ => rfl⟩
  · exact ⟨.or, rfl, _, _, rfl, rfl, fun _ _ _ => rfl⟩
  · exact hword (show keywordOf? "AND" = _ by decide) (by decide) (by decide) (by decide)
  · exact hword (show keywordOf? "OR" = _ by decide) (by decide) (by decide) (by decide)
  · exact ⟨.closeParen, rfl, _, _, rfl, rfl, fun _ _ _ => rfl⟩

theorem Awaits.subset {turn : Turn} {s : Stacks} {front : List Token} {expected : List Expected}
    (h : Awaits turn s front expected) : expected ⊆ .endOfInput :: tokenKinds := by
  cases h with
  | operand => decide
  | value => decide
  | operator =>
    rw [operandEnd]
    split <;> decide
  | closing => decide

/-- The end is expected behind operands only, there always. -/
theorem Awaits.of_endOfInput {turn : Turn} {s : Stacks} {front : List Token}
    {expected : List Expected} (h : Awaits turn s front expected)
    (hend : Expected.endOfInput ∈ expected) :
    turn = .operator ∧ front = [] ∧ (Expected.closeParen ∈ expected ↔ s.isNested = true) := by
  cases h with
  | operand => exact absurd hend (by decide)
  | value => exact absurd hend (by decide)
  | operator =>
    refine ⟨rfl, rfl, ?_⟩
    rw [operandEnd]
    cases s.isNested <;> decide
  | closing => exact absurd hend (by decide)

theorem ofTokens_cons {t : Token} (h : t.lexeme ≠ .finish) (ts : List Token) :
    RawExpr.ofTokens (t :: ts) = readTokens .operand .empty (t :: ts) := by
  rw [RawExpr.ofTokens]
  rintro position us heq
  cases heq
  exact h rfl

/-- The end behind an operand is taken, unless a parenthesis is open. -/
theorem parseRaw_of_leads {query : String} {before : List Token} {s : Stacks} {position : Nat}
    (hleads : Leads .operand .empty before .operator s) (hs : s.Balanced) (hne : before ≠ [])
    (h : tokenize query = .ok (before ++ [⟨.finish, position⟩])) :
    (s.isNested = false → ∃ raw, parseRaw query = .ok raw) ∧
      (s.isNested = true → parseRaw query = .error ⟨.unclosedOpen, position, [.closeParen]⟩) := by
  have hread := hleads [⟨.finish, position⟩] (by rintro - t ⟨⟩; rfl)
  constructor
  · intro hnested
    obtain ⟨raw, hraw⟩ := hs.reduce?_flat hnested
    rw [readTokens_finish hnested hraw] at hread
    exact ⟨raw, (parseRaw_of_tokenize h raw).2 (ofTokens_eq_readTokens.2 hread)⟩
  · intro hnested
    obtain ⟨t, us, rfl⟩ := List.exists_cons_of_ne_nil hne
    -- the query is not empty, so its first token is not its end
    have ht : t.lexeme ≠ .finish := by
      have hended := ended_of_tokenize h
      obtain ⟨u, vs, hvs⟩ := List.exists_cons_of_ne_nil
        (List.append_ne_nil_of_right_ne_nil us (List.cons_ne_nil ⟨.finish, position⟩ []))
      rw [List.cons_append, hvs] at hended
      cases hended with
      | cons ht _ => exact ht
    rw [parseRaw, h]
    simp only [bind, Except.bind]
    rw [List.cons_append] at hread ⊢
    rw [ofTokens_cons ht, hread, readTokens]
    simp only [Lexeme.keyword?, hnested, if_true, refuse]

/-- What an error of syntax says that it expects is taken at its position.  If a query that has tokens
is refused, and is cut at the position of the error, then a token of any of the kinds that are listed
is taken there.  The end of the query is taken there as well if it is listed, but not where a
closing parenthesis is listed too: then the cut query has an open parenthesis, and is refused at the
cut. -/
theorem expected_isTaken {query : String} {ts : List Token} {e : SyntaxError}
    (h : tokenize query = .ok ts) (he : parseRaw query = .error e) :
    ∃ before, tokenize (cutAt query e.position) = .ok (before ++ [⟨.finish, e.position⟩]) ∧
      (∀ k ∈ e.expected, k ≠ .endOfInput → k.IsTaken (cutAt query e.position) before) ∧
      (.endOfInput ∈ e.expected → .closeParen ∉ e.expected →
        ∃ raw, parseRaw (cutAt query e.position) = .ok raw) ∧
      (.endOfInput ∈ e.expected → .closeParen ∈ e.expected →
        parseRaw (cutAt query e.position) = .error ⟨.unclosedOpen, e.position, [.closeParen]⟩) := by
  obtain ⟨before, waiting, t, after, turn, s, rfl, hposition, hturn, hs, hleads, hawaits⟩ :=
    stopsAt_of_parseRaw h he
  rw [← List.append_assoc] at h
  obtain ⟨front, rest, hwhole, hlength, hfront, -⟩ := (scans_of_scanTokens h).split
  rw [← hposition, Nat.zero_add] at hlength
  have hcut : cutAt query e.position = String.ofList front := by
    rw [cutAt, hwhole, hlength, List.take_left]
  -- what is before the error is scanned alike when nothing follows
  have htokens : tokenize (cutAt query e.position) =
      .ok ((before ++ waiting) ++ [⟨.finish, e.position⟩]) := by
    rw [hcut, tokenize, String.toList_ofList, hfront, hposition]
  have hfront' : tokenize (cutAt query e.position) =
      .ok ((before ++ waiting) ++ [⟨.finish, (cutAt query e.position).length⟩]) := by
    rw [htokens, hcut, String.length_ofList, hlength]
  refine ⟨before ++ waiting, htokens, fun k hk hend => ?_, fun hend hclose => ?_,
    fun hend hclose => ?_⟩
  · have hnext : ∀ l, k.Admits l → ∀ query position rest,
        tokenize query = .ok ((before ++ waiting) ++ ⟨l, position⟩ :: rest) →
        ∀ e, parseRaw query = .error e → position < e.position := by
      intro l hl query' place rest' htokens' e' he'
      rw [List.append_assoc] at htokens'
      exact lt_of_parseRaw_error hleads hs hawaits hk hl htokens' he'
    exact {
      named := exists_spells_of_kind k ((List.mem_cons.1 (hawaits.subset hk)).resolve_left hend)
      next := hnext
      spaced := fun l _ text gap htext hne hgap => tokenize_spaced hfront' htext hne hgap
      touching := fun l hl text htext e' he' =>
        position_ne_of_touching hfront' htext (hnext l hl _ _) he' }
  · obtain ⟨rfl, rfl, hnested⟩ := hawaits.of_endOfInput hend
    rw [List.append_nil] at htokens
    have hne : before ≠ [] := by
      intro hnil
      cases hturn hnil
    exact (parseRaw_of_leads hleads hs hne htokens).1 (by rwa [hnested, Bool.not_eq_true] at hclose)
  · obtain ⟨rfl, rfl, hnested⟩ := hawaits.of_endOfInput hend
    rw [List.append_nil] at htokens
    have hne : before ≠ [] := by
      intro hnil
      cases hturn hnil
    exact (parseRaw_of_leads hleads hs hne htokens).2 (hnested.1 hclose)

/-- Behind a selector in parentheses a closing parenthesis is taken, and the end is not. -/
theorem expected_isTaken_nested :
    let query := "(a \"b\""
    let e : SyntaxError := ⟨.unexpectedToken "b", 3,
      [.andSign, .orSign, .andWord, .orWord, .endOfInput, .closeParen]⟩
    tokenize query = .ok [⟨.openParen, 0⟩, ⟨.word "a", 1⟩, ⟨.quoted "b", 3⟩, ⟨.finish, 6⟩] ∧
      parseRaw query = .error e ∧
      ∃ before, tokenize (cutAt query 3) = .ok (before ++ [⟨.finish, 3⟩]) ∧
        Expected.closeParen.IsTaken (cutAt query 3) before ∧
        parseRaw (cutAt query 3) = .error ⟨.unclosedOpen, 3, [.closeParen]⟩ := by
  intro query e
  have htokens : tokenize query =
      .ok [⟨.openParen, 0⟩, ⟨.word "a", 1⟩, ⟨.quoted "b", 3⟩, ⟨.finish, 6⟩] := by
    decide +kernel
  have hrefused : (parseRaw query).map (fun _ => ()) = .error e := by decide +kernel
  have herror := map_eq_error.1 hrefused
  obtain ⟨before, hbefore, htaken, -, hnested⟩ := expected_isTaken htokens herror
  exact ⟨htokens, herror, before, hbefore, htaken .closeParen (by decide) (by decide),
    hnested (by decide) (by decide)⟩

/-- The end is listed as expected where it is refused: in parentheses behind an operand. -/
theorem endOfInput_isRefused :
    parseRaw "(a \"b\"" = .error ⟨.unexpectedToken "b", 3,
      [.andSign, .orSign, .andWord, .orWord, .endOfInput, .closeParen]⟩ ∧
    parseRaw (cutAt "(a \"b\"" 3) = .error ⟨.unclosedOpen, 3, [.closeParen]⟩ := by
  have hfirst : (parseRaw "(a \"b\"").map (fun _ => ()) = .error ⟨.unexpectedToken "b", 3,
      [.andSign, .orSign, .andWord, .orWord, .endOfInput, .closeParen]⟩ := by decide +kernel
  have hsecond : (parseRaw (cutAt "(a \"b\"" 3)).map (fun _ => ()) =
      .error ⟨.unclosedOpen, 3, [.closeParen]⟩ := by decide +kernel
  exact ⟨map_eq_error.1 hfirst, map_eq_error.1 hsecond⟩

end FileQuery.Query
