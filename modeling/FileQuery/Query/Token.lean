import FileQuery.Query.SyntaxError

/-!
Tokens of the query language.  `tokenize` reads a query from left to right; every scanner below
returns the position and the text that are left, and a lemma beside it says that this text is
shorter than what it was given, which is why the loop ends.
-/

namespace FileQuery.Query

/-- The lexical classes.  A word is a run of characters that needs no quotes: a selector, an
operator, a value, an alias or a glob.  Whether a word is a keyword depends on where it stands, so
that is left to the parser. -/
inductive Lexeme where
  | word (text : String)
  | quoted (value : String)
  | set (source : String) (items : List String)
  | and
  | or
  | not
  | openParen
  | closeParen
  | finish
deriving DecidableEq, Repr

/-- The text of a token: as written, but without quotes and escapes for a quoted string. -/
def Lexeme.text : Lexeme → String
  | .word text => text
  | .quoted value => value
  | .set source _ => source
  | .and => "&&"
  | .or => "||"
  | .not => "!"
  | .openParen => "("
  | .closeParen => ")"
  | .finish => ""

/-- A lexeme and the character position where it starts. -/
structure Token where
  lexeme : Lexeme
  position : Nat
deriving DecidableEq, Repr

def isSeparator (c : Char) : Bool :=
  c == ' ' || c == '\t' || c == '\r' || c == '\n'

def isQuote (c : Char) : Bool :=
  c == '"' || c == '\''

def unescape? : Char → Option Char
  | '\\' => some '\\'
  | '"' => some '"'
  | '\'' => some '\''
  | 'n' => some '\n'
  | 't' => some '\t'
  | 'r' => some '\r'
  | _ => none

/-- The characters that may follow a backslash inside quotes. -/
def escapables : List Expected :=
  ['\\', '"', '\'', 'n', 't', 'r'].map .escapable

structure Scanned (α : Type) where
  value : α
  position : Nat
  rest : List Char

def skipBlanks (position : Nat) : List Char → Nat × List Char
  | c :: rest => if isSeparator c then skipBlanks (position + 1) rest else (position, c :: rest)
  | [] => (position, [])

theorem length_skipBlanks (position : Nat) (s : List Char) :
    (skipBlanks position s).2.length ≤ s.length := by
  induction s generalizing position with
  | nil => simp [skipBlanks]
  | cons c rest ih =>
    unfold skipBlanks
    split
    · exact Nat.le_succ_of_le (ih _)
    · exact Nat.le_refl _

/-- Reads a quoted string after its opening quote, which stands at `start`; `taken` holds the
characters read so far, last first. -/
def scanQuoted (quote : Char) (start : Nat) (taken : List Char) (position : Nat) :
    List Char → Except SyntaxError (Scanned (List Char))
  | [] => .error ⟨.unterminatedString, start, [.quote quote]⟩
  | '\\' :: rest =>
    match rest with
    | [] => .error ⟨.unterminatedEscape, position, escapables⟩
    | e :: rest =>
      match unescape? e with
      | none => .error ⟨.invalidEscape e, position, escapables⟩
      | some c => scanQuoted quote start (c :: taken) (position + 2) rest
  | c :: rest =>
    if c == quote then .ok ⟨taken.reverse, position + 1, rest⟩
    else scanQuoted quote start (c :: taken) (position + 1) rest

theorem length_scanQuoted {quote : Char} {start position : Nat} {taken s : List Char}
    {r : Scanned (List Char)} (h : scanQuoted quote start taken position s = .ok r) :
    r.rest.length < s.length := by
  fun_induction scanQuoted quote start taken position s with
  | case1 => simp at h
  | case2 => simp at h
  | case3 => simp at h
  | case4 taken position e rest c _ ih =>
    have := ih h
    simp only [List.length_cons]
    omega
  | case5 taken position c rest =>
    cases h
    simp
  | case6 taken position c rest _ _ ih =>
    have := ih h
    simp only [List.length_cons]
    omega

/-- Whether a bare item of a set ends before this character. -/
def endsItem (c : Char) : Bool :=
  isSeparator c || c == ',' || c == ']' || isQuote c

def scanItem (position : Nat) : List Char → Except SyntaxError (Scanned (List Char))
  | [] => .error ⟨.unterminatedSet, position, [.closingBracket]⟩
  | c :: rest =>
    if isQuote c then scanQuoted c position [] (position + 1) rest
    else
      let item := (c :: rest).takeWhile (fun d => !endsItem d)
      if item.isEmpty then .error ⟨.missingItem, position, [.item, .closingBracket]⟩
      else .ok ⟨item, position + item.length, (c :: rest).drop item.length⟩

theorem length_scanItem {position : Nat} {s : List Char} {r : Scanned (List Char)}
    (h : scanItem position s = .ok r) : r.rest.length < s.length := by
  unfold scanItem at h
  split at h
  · simp at h
  · next c rest =>
    split at h
    · have := length_scanQuoted h
      simp only [List.length_cons]
      omega
    · dsimp only at h
      split at h
      · simp at h
      · next hne =>
        cases h
        simp only [List.isEmpty_iff] at hne
        have hpos := List.length_pos_iff.2 hne
        simp only [List.length_drop, List.length_cons]
        omega

/-- Reads the items of a set after its opening bracket.  Items are separated by commas, and one
trailing comma is allowed. -/
def scanItems (items : List String) (position : Nat) (s : List Char) :
    Except SyntaxError (Scanned (List String)) :=
  match _hs : skipBlanks position s with
  | (start, []) => .error ⟨.unterminatedSet, start, [.closingBracket]⟩
  | (start, c :: rest) =>
    if c == ']' then .ok ⟨items.reverse, start + 1, rest⟩
    else
      match _hi : scanItem start (c :: rest) with
      | .error e => .error e
      | .ok item =>
        match _ha : skipBlanks item.position item.rest with
        | (stop, []) => .error ⟨.unterminatedSet, stop, [.closingBracket]⟩
        | (stop, d :: rest) =>
          if d == ',' then scanItems (String.ofList item.value :: items) (stop + 1) rest
          else if d == ']' then .ok ⟨(String.ofList item.value :: items).reverse, stop + 1, rest⟩
          else .error ⟨.strayInSet d, stop, [.comma, .closingBracket]⟩
termination_by s.length
decreasing_by
  have h1 := length_skipBlanks position s
  have h2 := length_scanItem _hi
  have h3 := length_skipBlanks item.position item.rest
  rw [_hs] at h1
  rw [_ha] at h3
  simp only [List.length_cons] at h1 h2 h3 ⊢
  omega

theorem length_scanItems {items : List String} {position : Nat} {s : List Char}
    {r : Scanned (List String)} (h : scanItems items position s = .ok r) :
    r.rest.length < s.length := by
  -- on the characters that are left, as an item may be of any length
  induction hn : s.length using Nat.strongRecOn generalizing items position s with
  | _ n ih =>
    subst hn
    have h1 := length_skipBlanks position s
    unfold scanItems at h
    split at h
    · simp at h
    · next start c rest hs =>
      rw [hs] at h1
      simp only [List.length_cons] at h1
      split at h
      · cases h
        exact h1
      · split at h
        · simp at h
        · next item hi =>
          have h2 := length_scanItem hi
          have h3 := length_skipBlanks item.position item.rest
          simp only [List.length_cons] at h2
          split at h
          · simp at h
          · next stop d rest' ha =>
            rw [ha] at h3
            simp only [List.length_cons] at h3
            split at h
            · have := ih rest'.length (by omega) h rfl
              omega
            · split at h
              · cases h
                simp only
                omega
              · simp at h

def scanBracket (start position : Nat) (s : List Char) : Except SyntaxError (Nat × List Char) :=
  match s with
  | [] => .error ⟨.unterminatedBracket, start, [.closingBracket]⟩
  | c :: rest =>
    if isQuote c then
      match _h : scanQuoted c position [] (position + 1) rest with
      | .error e => .error e
      | .ok q => scanBracket start q.position q.rest
    else if c == ']' then .ok (position + 1, rest)
    else scanBracket start (position + 1) rest
termination_by s.length
decreasing_by
  · have := length_scanQuoted _h
    simp only [List.length_cons]
    omega
  · simp

theorem length_scanBracket {start position : Nat} {s : List Char} {r : Nat × List Char}
    (h : scanBracket start position s = .ok r) : r.2.length < s.length := by
  fun_induction scanBracket start position s with
  | case1 => simp at h
  | case2 => simp at h
  | case3 position c rest _ q hq ih =>
    have h1 := length_scanQuoted hq
    have h2 := ih h
    simp only [List.length_cons]
    omega
  | case4 =>
    cases h
    simp
  | case5 position c rest _ _ ih =>
    have := ih h
    simp only [List.length_cons]
    omega

def endsWord : List Char → Bool
  | [] => true
  | '&' :: '&' :: _ => true
  | '|' :: '|' :: _ => true
  | c :: _ => isSeparator c || c == '(' || c == ')' || isQuote c

def scanWord (position : Nat) (s : List Char) : Except SyntaxError (Nat × List Char) :=
  match s with
  | [] => .ok (position, [])
  | c :: rest =>
    if endsWord (c :: rest) then .ok (position, c :: rest)
    else if c == '[' then
      match _h : scanBracket position (position + 1) rest with
      | .error e => .error e
      | .ok (stop, rest) => scanWord stop rest
    else scanWord (position + 1) rest
termination_by s.length
decreasing_by
  · have h := length_scanBracket _h
    simp only [List.length_cons] at h ⊢
    omega
  · simp

theorem length_scanWord {position : Nat} {s : List Char} {r : Nat × List Char}
    (h : scanWord position s = .ok r) : r.2.length ≤ s.length := by
  fun_induction scanWord position s with
  | case1 =>
    cases h
    simp
  | case2 =>
    cases h
    simp
  | case3 => simp at h
  | case4 position c rest _ _ stop rest' hb ih =>
    have h1 := length_scanBracket hb
    have h2 := ih h
    simp only [List.length_cons] at h1 ⊢
    omega
  | case5 position c rest _ _ ih =>
    have := ih h
    simp only [List.length_cons]
    omega

def sourceSpan (start stop : Nat) (s : List Char) : String :=
  String.ofList (s.take (stop - start))

def scanToken (position : Nat) (c : Char) (rest : List Char) :
    Except SyntaxError (Scanned Lexeme) :=
  match c, rest with
  | '&', '&' :: rest => .ok ⟨.and, position + 2, rest⟩
  | '|', '|' :: rest => .ok ⟨.or, position + 2, rest⟩
  | '(', rest => .ok ⟨.openParen, position + 1, rest⟩
  | ')', rest => .ok ⟨.closeParen, position + 1, rest⟩
  | c, rest =>
    if c == '!' && rest.head? != some '=' then .ok ⟨.not, position + 1, rest⟩
    else if isQuote c then do
      let q ← scanQuoted c position [] (position + 1) rest
      return ⟨.quoted (String.ofList q.value), q.position, q.rest⟩
    else if c == '[' then do
      let items ← scanItems [] (position + 1) rest
      return ⟨.set (sourceSpan position items.position (c :: rest)) items.value,
        items.position, items.rest⟩
    else do
      -- the first character belongs to the word whatever it is: no other token starts with it
      let (stop, rest') ← scanWord (position + 1) rest
      return ⟨.word (sourceSpan position stop (c :: rest)), stop, rest'⟩

theorem length_scanToken {position : Nat} {c : Char} {rest : List Char} {r : Scanned Lexeme}
    (h : scanToken position c rest = .ok r) : r.rest.length ≤ rest.length := by
  unfold scanToken at h
  split at h
  · cases h; simp
  · cases h; simp
  · cases h; simp
  · cases h; simp
  · split at h
    · cases h; simp
    · split at h
      · cases hq : scanQuoted c position [] (position + 1) rest with
        | error e => simp [hq, bind, Except.bind] at h
        | ok q =>
          have := length_scanQuoted hq
          simp only [hq, bind, Except.bind, pure, Except.pure, Except.ok.injEq] at h
          cases h
          exact Nat.le_of_lt this
      · split at h
        · cases hi : scanItems [] (position + 1) rest with
          | error e => simp [hi, bind, Except.bind] at h
          | ok items =>
            have := length_scanItems hi
            simp only [hi, bind, Except.bind, pure, Except.pure, Except.ok.injEq] at h
            cases h
            exact Nat.le_of_lt this
        · cases hw : scanWord (position + 1) rest with
          | error e => simp [hw, bind, Except.bind] at h
          | ok w =>
            have := length_scanWord hw
            simp only [hw, bind, Except.bind, pure, Except.pure, Except.ok.injEq] at h
            cases h
            exact this

def scanTokens (position : Nat) (s : List Char) : Except SyntaxError (List Token) :=
  match _hs : skipBlanks position s with
  | (stop, []) => .ok [⟨.finish, stop⟩]
  | (start, c :: rest) =>
    match _ht : scanToken start c rest with
    | .error e => .error e
    | .ok t =>
      match scanTokens t.position t.rest with
      | .error e => .error e
      | .ok tokens => .ok (⟨t.value, start⟩ :: tokens)
termination_by s.length
decreasing_by
  have h1 := length_skipBlanks position s
  have h2 := length_scanToken _ht
  rw [_hs] at h1
  simp only [List.length_cons] at h1
  omega

/-- The tokens of a query, ended by `finish` at the query's length. -/
def tokenize (query : String) : Except SyntaxError (List Token) :=
  scanTokens 0 query.toList

end FileQuery.Query
