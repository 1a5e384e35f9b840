import FileQuery.Document.Path

/-!
Reading paths.  A path is a point alone, or starts with a point and is a sequence of `.name`,
`..name` and brackets, with an index, a star or a quoted name between the brackets; a point before
brackets changes nothing, and two points before a quoted name look for it at any depth.
-/

namespace FileQuery.Document

inductive PathCause where
  | missingPoint
  | missingName
  | unterminatedQuote
  | unterminatedBracket
  | badBracket
  | missingBracket
  | missingRecursiveName
  | unexpected (c : Char)
deriving DecidableEq, Repr

def PathCause.text : PathCause → String
  | .missingPoint => "Path must start with '.'"
  | .missingName => "Expected field name"
  | .unterminatedQuote => "Unterminated quoted field name"
  | .unterminatedBracket => "Unterminated '['"
  | .badBracket => "Expected array index, '*' or quoted field name"
  | .missingBracket => "Expected ']'"
  | .missingRecursiveName => "Expected field name after '..'"
  | .unexpected c => "Unexpected character '" ++ c.toString ++ "'"

/-- Why a text is no path: it is refused at a position, or an index in it is no number. -/
inductive PathFault where
  | refused (cause : PathCause) (position : Nat)
  | index (fault : Number.IntegerFault)
deriving DecidableEq, Repr

def PathFault.message : PathFault → String
  | .refused cause position => cause.text ++ " at position " ++ toString position
  | .index fault => fault.message

structure Taken (α : Type) where
  value : α
  position : Nat
  rest : List Char

def takeName (position : Nat) (s : List Char) : Except PathFault (Taken String) :=
  let name := s.takeWhile isNameChar
  if name.isEmpty then .error (.refused .missingName position)
  else .ok ⟨String.ofList name, position + name.length, s.drop name.length⟩

/-- Reads a quoted name after its opening quote, which stands at `start`.  A backslash takes the
character after it as it is. -/
def takeQuoted (quote : Char) (start : Nat) (name : List Char) (position : Nat) :
    List Char → Except PathFault (Taken String)
  | [] => .error (.refused .unterminatedQuote start)
  | c :: rest =>
    if c == quote then .ok ⟨String.ofList name.reverse, position + 1, rest⟩
    else if c == '\\' then
      match rest with
      | d :: rest => takeQuoted quote start (d :: name) (position + 2) rest
      | [] => .error (.refused .unterminatedQuote start)
    else takeQuoted quote start (c :: name) (position + 1) rest

def takeInside (start position : Nat) : List Char → Except PathFault (Taken Segment)
  | [] => .error (.refused .unterminatedBracket start)
  | c :: rest =>
    if c == '*' then .ok ⟨.wildcard, position + 1, rest⟩
    else if c == '"' || c == '\'' then
      (takeQuoted c position [] (position + 1) rest).map fun t =>
        ⟨.field t.value, t.position, t.rest⟩
    else if Text.isDigit c then
      let digits := (c :: rest).takeWhile Text.isDigit
      match Number.readDigits (String.ofList digits) digits with
      | .error fault => .error (.index fault)
      | .ok n => .ok ⟨.index n, position + digits.length, (c :: rest).drop digits.length⟩
    else .error (.refused .badBracket position)

/-- Reads brackets after the opening one, which stands at `start`. -/
def takeBracketed (start : Nat) (s : List Char) : Except PathFault (Taken Segment) :=
  match takeInside start (start + 1) s with
  | .error e => .error e
  | .ok t =>
    match t.rest with
    | ']' :: rest => .ok ⟨t.value, t.position + 1, rest⟩
    | _ => .error (.refused .missingBracket t.position)

def takeSegment (position : Nat) : List Char → Except PathFault (Taken Segment)
  | '.' :: '.' :: '[' :: rest =>
    match takeBracketed (position + 2) rest with
    | .error e => .error e
    | .ok ⟨.field name, p, rest⟩ => .ok ⟨.recursive name, p, rest⟩
    | .ok t => .error (.refused .missingRecursiveName t.position)
  | '.' :: '.' :: rest =>
    (takeName (position + 2) rest).map fun t => ⟨.recursive t.value, t.position, t.rest⟩
  | '.' :: '[' :: rest => takeBracketed (position + 1) rest
  | '.' :: rest => (takeName (position + 1) rest).map fun t => ⟨.field t.value, t.position, t.rest⟩
  | '[' :: rest => takeBracketed position rest
  | c :: _ => .error (.refused (.unexpected c) position)
  | [] => .error (.refused .missingName position)

theorem length_takeQuoted {quote : Char} {start position : Nat} {name s : List Char}
    {t : Taken String} (h : takeQuoted quote start name position s = .ok t) :
    t.rest.length < s.length := by
  fun_induction takeQuoted quote start name position s with
  | case1 => simp at h
  | case2 =>
    cases h
    simp
  | case3 name position c _ _ d rest ih =>
    have := ih h
    simp only [List.length_cons]
    omega
  | case4 => simp at h
  | case5 name position c rest _ _ ih =>
    have := ih h
    simp only [List.length_cons]
    omega

theorem length_takeName {position : Nat} {s : List Char} {t : Taken String}
    (h : takeName position s = .ok t) : t.rest.length < s.length := by
  unfold takeName at h
  dsimp only at h
  split at h
  · simp at h
  · next hne =>
    cases h
    simp only [List.isEmpty_iff] at hne
    have h1 := List.length_pos_iff.2 hne
    have h2 := (List.takeWhile_sublist isNameChar (l := s)).length_le
    simp only [List.length_drop]
    omega

theorem length_takeBracketed {start : Nat} {s : List Char} {t : Taken Segment}
    (h : takeBracketed start s = .ok t) : t.rest.length < s.length := by
  have inside : ∀ {p : Nat} {u : Taken Segment}, takeInside start p s = .ok u →
      u.rest.length ≤ s.length := by
    intro p u hu
    unfold takeInside at hu
    split at hu
    · simp at hu
    · next c rest =>
      split at hu
      · cases hu
        simp
      · split at hu
        · cases hq : takeQuoted c p [] (p + 1) rest with
          | error e => simp [hq, Except.map] at hu
          | ok q =>
            have := length_takeQuoted hq
            simp only [hq, Except.map, Except.ok.injEq] at hu
            cases hu
            simp only [List.length_cons]
            omega
        · split at hu
          · dsimp only at hu
            split at hu
            · simp at hu
            · cases hu
              simp
          · simp at hu
  -- and then the bracket that closes is left out as well
  unfold takeBracketed at h
  split at h
  · simp at h
  · next u hu =>
    have := inside hu
    split at h
    · next rest hr =>
      cases h
      simp only [hr, List.length_cons] at this
      exact this
    · simp at h

theorem length_takeSegment {position : Nat} {s : List Char} {t : Taken Segment}
    (h : takeSegment position s = .ok t) : t.rest.length < s.length := by
  unfold takeSegment at h
  split at h
  · -- each way to begin a step takes a character itself, whatever is read behind it
    next rest =>
    split at h
    · simp at h
    · next hb =>
      have := length_takeBracketed hb
      cases h
      simp only [List.length_cons] at this ⊢
      omega
    · simp at h
  · next rest _ =>
    cases hn : takeName (position + 2) rest with
    | error e => simp [hn, Except.map] at h
    | ok n =>
      have := length_takeName hn
      simp only [hn, Except.map, Except.ok.injEq] at h
      cases h
      simp only [List.length_cons]
      omega
  · have := length_takeBracketed h
    simp only [List.length_cons]
    omega
  · next rest _ _ _ =>
    cases hn : takeName (position + 1) rest with
    | error e => simp [hn, Except.map] at h
    | ok n =>
      have := length_takeName hn
      simp only [hn, Except.map, Except.ok.injEq] at h
      cases h
      simp only [List.length_cons]
      omega
  · have := length_takeBracketed h
    simp only [List.length_cons]
    omega
  · simp at h
  · simp at h

def takeSegments (position : Nat) (s : List Char) : Except PathFault Path :=
  match s with
  | [] => .ok []
  | c :: rest =>
    match _h : takeSegment position (c :: rest) with
    | .error e => .error e
    | .ok t =>
      match takeSegments t.position t.rest with
      | .error e => .error e
      | .ok path => .ok (t.value :: path)
termination_by s.length
decreasing_by exact length_takeSegment _h

def Path.read (text : String) : Except PathFault Path :=
  match text.toList with
  | ['.'] => .ok []
  | '.' :: rest => takeSegments 0 ('.' :: rest)
  | _ => .error (.refused .missingPoint 0)

end FileQuery.Document
