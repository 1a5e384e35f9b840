import FileQuery.Proofs.Document.PathIndex
import FileQuery.Proofs.Document.PathText
import Mathlib.Data.List.TakeWhile

/-!
# The grammar of paths

What the text of a path has to look like, stated without a scanner: a point alone, or steps one after
the other of which the first starts with a point.  The reader takes just these texts, and takes them
apart in the only possible way; any other text it refuses at a position inside it.  Only indices need a
condition, since not all characters that count as digits make up numbers.
-/

namespace FileQuery.Document

namespace Grammar

/-- `key = name_char, { name_char }`. -/
def IsKey (s : List Char) : Prop := s ≠ [] ∧ ∀ c ∈ s, isNameChar c = true

/-- `inside = digits | "*" | quoted`, and the step that it stands for.  The value of an index is that
of its digits in base ten. -/
inductive Inside : List Char → Segment → Prop
  | index {digits : List Char} {values : List Nat} :
      digits ≠ [] → (∀ c ∈ digits, Text.isDigit c = true) →
      digits.map Text.decimalValue? = values.map some →
      Inside digits (.index (Nat.ofDigits 10 values.reverse))
  | wildcard : Inside ['*'] .wildcard
  | quoted {quote : Char} {s name : List Char} :
      quote = '"' ∨ quote = '\'' → Quoted quote s name →
      Inside (quote :: (s ++ [quote])) (.field (String.ofList name))

/-- `step = ".", key | "..", key | [ "." ], "[", inside, "]" | "..", "[", quoted, "]"`. -/
inductive Step : List Char → Segment → Prop
  | field {s : List Char} : IsKey s → Step ('.' :: s) (.field (String.ofList s))
  | recursive {s : List Char} : IsKey s → Step ('.' :: '.' :: s) (.recursive (String.ofList s))
  | brackets {s : List Char} {segment : Segment} :
      Inside s segment → Step ('[' :: (s ++ [']'])) segment
  | pointBrackets {s : List Char} {segment : Segment} :
      Inside s segment → Step ('.' :: '[' :: (s ++ [']'])) segment
  | recursiveBrackets {s : List Char} {name : String} :
      Inside s (.field name) → Step ('.' :: '.' :: '[' :: (s ++ [']'])) (.recursive name)

inductive Steps : List Char → Path → Prop
  | nil : Steps [] []
  | cons {s rest : List Char} {segment : Segment} {path : Path} :
      Step s segment → Steps rest path → Steps (s ++ rest) (segment :: path)

/-- `path = "." | step, { step }`, where the first step starts with a point. -/
def Derives (s : List Char) (path : Path) : Prop :=
  (s = ['.'] ∧ path = []) ∨ (s.head? = some '.' ∧ Steps s path)

end Grammar

/-- Texts in which all that counts as a digit is a decimal digit, and no index can be too long. -/
def HasShortDecimals (s : List Char) : Prop :=
  (∀ c ∈ s, Text.isDigit c = true → Text.isDecimal c = true) ∧
    ∀ run, run <:+: s → (∀ c ∈ run, Text.isDigit c = true) → run.length ≤ Number.digitLimit

theorem HasShortDecimals.mono {s t : List Char} (h : HasShortDecimals s) (ht : t <:+: s) :
    HasShortDecimals t :=
  ⟨fun c hc => h.1 c (ht.subset hc), fun run hrun => h.2 run (hrun.trans ht)⟩

/-! ## 1. What is read is derived -/

variable {α : Type}

/-- What was taken from the front of a text: a part of the given form, and the position moves on by as
many characters. -/
def Taken.IsFront (t : Taken α) (form : List Char → α → Prop) (position : Nat) (s : List Char) :
    Prop :=
  ∃ front, form front t.value ∧ s = front ++ t.rest ∧ t.position = position + front.length

/-- A run of characters of one kind is followed by the rest of the text. -/
theorem takeWhile_append_drop (test : Char → Bool) (s : List Char) :
    s = s.takeWhile test ++ s.drop (s.takeWhile test).length :=
  (List.prefix_iff_eq_append.1 (List.takeWhile_prefix test)).symm

theorem isFront_takeName {position : Nat} {s : List Char} {t : Taken String}
    (h : takeName position s = .ok t) :
    t.IsFront (fun front name => Grammar.IsKey front ∧ name = String.ofList front) position s := by
  unfold takeName at h
  dsimp only at h
  split at h
  · cases h
  · next hne =>
    cases h
    refine ⟨s.takeWhile isNameChar, ⟨⟨by simpa using hne, fun c hc => ?_⟩, rfl⟩, ?_, rfl⟩
    · exact List.mem_takeWhile_imp hc
    · exact takeWhile_append_drop isNameChar s

theorem isFront_takeQuoted {quote : Char} {start position : Nat} {name s : List Char}
    {t : Taken String} (h : takeQuoted quote start name position s = .ok t) :
    t.IsFront (fun front taken => ∃ body more, front = body ++ [quote] ∧
      Grammar.Quoted quote body more ∧ taken = String.ofList (name.reverse ++ more)) position s := by
  -- along the characters, of which each adds one to the name
  fun_induction takeQuoted quote start name position s with
  | case1 => cases h
  | case2 name position c rest hquote =>
    cases h
    rw [beq_iff_eq] at hquote
    subst hquote
    exact ⟨[c], ⟨[], [], rfl, .nil, by rw [List.append_nil]⟩, rfl, rfl⟩
  | case3 name position c _ hslash d rest ih =>
    rw [beq_iff_eq] at hslash
    subst hslash
    obtain ⟨_, ⟨body, more, rfl, hbody, hname⟩, hs, hposition⟩ := ih h
    refine ⟨'\\' :: d :: body ++ [quote], ⟨_, _, rfl, hbody.escaped, ?_⟩, ?_, ?_⟩
    · rw [hname, List.reverse_cons, List.append_assoc, List.singleton_append]
    · rw [hs]
      rfl
    · rw [hposition]
      simp only [List.length_cons, List.cons_append]
      omega
  | case4 => cases h
  | case5 name position c rest hquote hslash ih =>
    obtain ⟨_, ⟨body, more, rfl, hbody, hname⟩, hs, hposition⟩ := ih h
    rw [beq_iff_eq] at hquote hslash
    refine ⟨c :: body ++ [quote], ⟨_, _, rfl, hbody.plain hquote hslash, ?_⟩, ?_, ?_⟩
    · rw [hname, List.reverse_cons, List.append_assoc, List.singleton_append]
    · rw [hs]
      rfl
    · rw [hposition]
      simp only [List.length_cons, List.cons_append]
      omega

theorem isFront_takeInside {start position : Nat} {s : List Char} {t : Taken Segment}
    (h : takeInside start position s = .ok t) : t.IsFront Grammar.Inside position s := by
  unfold takeInside at h
  split at h
  · cases h
  · next c rest =>
    -- a star, a name in quotes or digits
    split at h
    · next hstar =>
      cases h
      rw [beq_iff_eq] at hstar
      subst hstar
      exact ⟨['*'], .wildcard, rfl, rfl⟩
    · split at h
      · next hquote =>
        obtain ⟨u, hu, rfl⟩ := map_eq_ok.1 h
        obtain ⟨_, ⟨body, name, rfl, hbody, hname⟩, hs, hposition⟩ := isFront_takeQuoted hu
        rw [Bool.or_eq_true, beq_iff_eq, beq_iff_eq] at hquote
        refine ⟨c :: (body ++ [c]), ?_, congrArg (c :: ·) hs, ?_⟩
        · rw [hname]
          exact .quoted hquote hbody
        · rw [hposition, List.length_cons]
          omega
      · split at h
        · next hdigit =>
          dsimp only at h
          split at h
          · cases h
          · next n hn =>
            cases h
            obtain ⟨values, hvalues, rfl⟩ := Number.values_of_readDigits hn
            refine ⟨(c :: rest).takeWhile Text.isDigit, ?_, takeWhile_append_drop _ _, rfl⟩
            exact .index (by simp [hdigit]) (fun d hd => List.mem_takeWhile_imp hd) hvalues
        · cases h

theorem isFront_takeBracketed {start : Nat} {s : List Char} {t : Taken Segment}
    (h : takeBracketed start s = .ok t) :
    t.IsFront (fun front segment => ∃ inside, front = inside ++ [']'] ∧
      Grammar.Inside inside segment) (start + 1) s := by
  unfold takeBracketed at h
  split at h
  · cases h
  · next u hu =>
    obtain ⟨inside, hinside, hs, hposition⟩ := isFront_takeInside hu
    split at h
    · next rest hrest =>
      cases h
      refine ⟨_, ⟨inside, rfl, hinside⟩, ?_, ?_⟩
      · rw [hs, hrest, List.append_assoc]
        rfl
      · rw [hposition, List.length_append]
        rfl
    · cases h

theorem isFront_takeSegment {position : Nat} {s : List Char} {t : Taken Segment}
    (h : takeSegment position s = .ok t) : t.IsFront Grammar.Step position s := by
  -- in the order in which the reader tells the steps apart
  unfold takeSegment at h
  split at h
  · split at h
    · cases h
    · next hname =>
      cases h
      obtain ⟨_, ⟨inside, rfl, hinside⟩, hs, hposition⟩ := isFront_takeBracketed hname
      exact ⟨_, .recursiveBrackets hinside, by rw [hs]; rfl, by rw [hposition]; simp; omega⟩
    · cases h
  · obtain ⟨u, hu, rfl⟩ := map_eq_ok.1 h
    obtain ⟨name, ⟨hkey, hname⟩, hs, hposition⟩ := isFront_takeName hu
    refine ⟨'.' :: '.' :: name, ?_, by rw [hs]; rfl, by rw [hposition]; simp; omega⟩
    rw [hname]
    exact .recursive hkey
  · obtain ⟨_, ⟨inside, rfl, hinside⟩, hs, hposition⟩ := isFront_takeBracketed h
    exact ⟨_, .pointBrackets hinside, by rw [hs]; rfl, by rw [hposition]; simp; omega⟩
  · obtain ⟨u, hu, rfl⟩ := map_eq_ok.1 h
    obtain ⟨name, ⟨hkey, hname⟩, hs, hposition⟩ := isFront_takeName hu
    refine ⟨'.' :: name, ?_, by rw [hs]; rfl, by rw [hposition]; simp; omega⟩
    rw [hname]
    exact .field hkey
  · obtain ⟨_, ⟨inside, rfl, hinside⟩, hs, hposition⟩ := isFront_takeBracketed h
    exact ⟨_, .brackets hinside, by rw [hs]; rfl, by rw [hposition]; simp; omega⟩
  · cases h
  · cases h

theorem steps_of_takeSegments {position : Nat} {s : List Char} {path : Path}
    (h : takeSegments position s = .ok path) : Grammar.Steps s path := by
  fun_induction takeSegments position s generalizing path with
  | case1 =>
    cases h
    exact .nil
  | case2 => cases h
  | case3 => cases h
  | case4 position c rest t ht path' hpath ih =>
    cases h
    obtain ⟨front, hfront, hs, -⟩ := isFront_takeSegment ht
    rw [hs]
    exact .cons hfront (ih hpath)

/-! ## 2. What is derived is read -/

theorem isBareName_ofList {s : List Char} (h : Grammar.IsKey s) :
    isBareName (String.ofList s) = true := by
  obtain ⟨hne, hall⟩ := h
  rw [isBareName, String.toList_ofList, Bool.and_eq_true, List.all_eq_true]
  exact ⟨by simpa [String.isEmpty_iff] using hne, hall⟩

theorem takeBracketed_of_inside {inside : List Char} {segment : Segment}
    (h : Grammar.Inside inside segment) (start : Nat) (rest : List Char)
    (hshort : HasShortDecimals inside) :
    takeBracketed start (inside ++ ']' :: rest) =
      .ok ⟨segment, start + inside.length + 2, rest⟩ := by
  cases h with
  | @index _ values hne hdigits hvalues =>
    have hlength := hshort.2 inside (List.infix_refl _) hdigits
    rw [takeBracketed, takeInside_digits hne hdigits,
      Number.readDigits_of_values hne hlength hvalues]
    simp only [Except.ok.injEq, Taken.mk.injEq, true_and, and_true]
    omega
  | wildcard => rfl
  | @quoted quote body name hquote hbody =>
    rw [List.cons_append, List.append_assoc, List.singleton_append,
      takeBracketed_of_quoted hquote hbody]
    simp only [List.length_cons, List.length_append, List.length_nil]
    congr 2

theorem takeSegment_of_step {s : List Char} {segment : Segment} (h : Grammar.Step s segment)
    (position : Nat) {rest : List Char} (hshort : HasShortDecimals s) (hrest : StartsStep rest) :
    takeSegment position (s ++ rest) = .ok ⟨segment, position + s.length, rest⟩ := by
  -- a name ends where the next step begins, and brackets end by themselves
  cases h with
  | field hkey =>
    have hread := takeSegment_field (isBareName_ofList hkey) position hrest
    rw [String.toList_ofList] at hread
    rw [List.cons_append, hread, List.length_cons]
    congr 2
    omega
  | «recursive» hkey =>
    have hread := takeSegment_recursive (isBareName_ofList hkey) position hrest
    rw [String.toList_ofList] at hread
    rw [List.cons_append, List.cons_append, hread, List.length_cons, List.length_cons]
    congr 2
    omega
  | @brackets inside _ hinside =>
    have hread := takeBracketed_of_inside hinside position rest (hshort.mono ⟨['['], [']'], rfl⟩)
    rw [List.cons_append, List.append_assoc, List.singleton_append]
    show takeBracketed position _ = _
    rw [hread, List.length_cons, List.length_append]
    rfl
  | @pointBrackets inside _ hinside =>
    have hread := takeBracketed_of_inside hinside (position + 1) rest
      (hshort.mono ⟨['.', '['], [']'], rfl⟩)
    rw [List.cons_append, List.cons_append, List.append_assoc, List.singleton_append]
    show takeBracketed (position + 1) _ = _
    rw [hread]
    simp only [List.length_cons, List.length_append, List.length_nil]
    congr 2
    omega
  | @recursiveBrackets inside name hinside =>
    have hread := takeBracketed_of_inside hinside (position + 2) rest
      (hshort.mono ⟨['.', '.', '['], [']'], rfl⟩)
    rw [List.cons_append, List.cons_append, List.cons_append, List.append_assoc,
      List.singleton_append, takeSegment, hread]
    simp only [List.length_cons, List.length_append, List.length_nil]
    congr 2
    omega

theorem startsStep_of_steps {s : List Char} {path : Path} (h : Grammar.Steps s path) :
    StartsStep s := by
  cases h with
  | nil => exact nofun
  | cons hstep =>
    intro c hc
    cases hstep with
    | field | «recursive» | pointBrackets | recursiveBrackets =>
      cases hc
      exact .inl rfl
    | brackets =>
      cases hc
      exact .inr rfl

theorem takeSegments_of_steps {s : List Char} {path : Path} (h : Grammar.Steps s path)
    (position : Nat) (hshort : HasShortDecimals s) : takeSegments position s = .ok path := by
  induction h generalizing position with
  | nil => rw [takeSegments]
  | @cons s rest segment path hstep hsteps ih =>
    have hread := takeSegment_of_step hstep position (hshort.mono ⟨[], rest, rfl⟩)
      (startsStep_of_steps hsteps)
    have hrest := ih (position + s.length) (hshort.mono ⟨s, [], by simp⟩)
    obtain ⟨c, s', hs⟩ : ∃ c s', s = c :: s' := by
      cases hstep <;> exact ⟨_, _, rfl⟩
    rw [hs, List.cons_append, takeSegments_cons, ← List.cons_append, ← hs, hread]
    simp only [hrest]

/-! ## 3. What is not read is refused inside the text -/

/-- A reader that starts at a position refuses a text at a position in it, or at its end. -/
def RefusedWithin (stop : Nat) (r : Except PathFault α) : Prop :=
  ∀ cause place, r = .error (.refused cause place) → place ≤ stop

namespace RefusedWithin

theorem ok {stop : Nat} {a : α} : RefusedWithin stop (.ok a) := nofun

theorem refused {stop place : Nat} {cause : PathCause} (h : place ≤ stop) :
    RefusedWithin stop (.error (.refused cause place) : Except PathFault α) := by
  rintro _ _ ⟨⟩
  exact h

theorem error {β : Type} {stop : Nat} {r : Except PathFault α} {e : PathFault}
    (h : RefusedWithin stop r) (hr : r = .error e) :
    RefusedWithin stop (.error e : Except PathFault β) := by
  rintro cause place ⟨⟩
  exact h cause place hr

theorem map {β : Type} {stop : Nat} {r : Except PathFault α} (h : RefusedWithin stop r)
    (f : α → β) : RefusedWithin stop (r.map f) :=
  fun cause place hr => h cause place (map_eq_error.1 hr)

theorem mono {stop stop' : Nat} {r : Except PathFault α} (h : RefusedWithin stop r)
    (hle : stop ≤ stop') : RefusedWithin stop' r :=
  fun cause place hr => Nat.le_trans (h cause place hr) hle

end RefusedWithin

theorem Taken.IsFront.length {t : Taken α} {form : List Char → α → Prop} {position : Nat}
    {s : List Char} (h : t.IsFront form position s) :
    t.position + t.rest.length = position + s.length := by
  obtain ⟨front, -, hs, hposition⟩ := h
  rw [hs, hposition, List.length_append]
  omega

theorem refusedWithin_takeName (position : Nat) (s : List Char) :
    RefusedWithin position (takeName position s) := by
  unfold takeName
  dsimp only
  split
  · exact .refused (Nat.le_refl _)
  · exact .ok

theorem refusedWithin_takeQuoted (quote : Char) (start : Nat) (name : List Char) (position : Nat)
    (s : List Char) : RefusedWithin start (takeQuoted quote start name position s) := by
  fun_induction takeQuoted quote start name position s with
  | case1 => exact .refused (Nat.le_refl _)
  | case2 => exact .ok
  | case3 _ _ _ _ _ _ _ ih => exact ih
  | case4 => exact .refused (Nat.le_refl _)
  | case5 _ _ _ _ _ _ ih => exact ih

theorem refusedWithin_takeInside {start position : Nat} (h : start ≤ position) (s : List Char) :
    RefusedWithin position (takeInside start position s) := by
  unfold takeInside
  split
  · exact .refused h
  · split
    · exact .ok
    · split
      · exact (refusedWithin_takeQuoted _ position [] (position + 1) _).map _
      · split
        · dsimp only
          split
          · rintro _ _ ⟨⟩
          · exact .ok
        · exact .refused (Nat.le_refl _)

theorem refusedWithin_takeBracketed (start : Nat) (s : List Char) :
    RefusedWithin (start + 1 + s.length) (takeBracketed start s) := by
  have hinside := refusedWithin_takeInside (Nat.le_succ start) s
  unfold takeBracketed
  split
  · next e he => exact (hinside.error he).mono (Nat.le_add_right _ _)
  · next t ht =>
    have hlength := (isFront_takeInside ht).length
    split
    · exact .ok
    · apply RefusedWithin.refused
      omega

theorem refusedWithin_takeSegment (position : Nat) (s : List Char) :
    RefusedWithin (position + s.length) (takeSegment position s) := by
  -- what is refused behind the first characters of a step is refused further on
  unfold takeSegment
  split
  · next rest =>
    have hstop : position + 2 + 1 + rest.length ≤ position + ('.' :: '.' :: '[' :: rest).length := by
      simp only [List.length_cons]
      omega
    have hbrackets := (refusedWithin_takeBracketed (position + 2) rest).mono hstop
    split
    · next he => exact hbrackets.error he
    · exact .ok
    · next t _ ht =>
      have hlength := (isFront_takeBracketed ht).length
      apply RefusedWithin.refused
      simp only [List.length_cons]
      omega
  · refine ((refusedWithin_takeName _ _).map _).mono ?_
    simp only [List.length_cons]
    omega
  · refine (refusedWithin_takeBracketed _ _).mono ?_
    simp only [List.length_cons]
    omega
  · refine ((refusedWithin_takeName _ _).map _).mono ?_
    simp only [List.length_cons]
    omega
  · refine (refusedWithin_takeBracketed _ _).mono ?_
    simp only [List.length_cons]
    omega
  · exact .refused (Nat.le_add_right _ _)
  · exact .refused (Nat.le_add_right _ _)

theorem refusedWithin_takeSegments (position : Nat) (s : List Char) :
    RefusedWithin (position + s.length) (takeSegments position s) := by
  fun_induction takeSegments position s with
  | case1 => exact .ok
  | case2 position c rest e he => exact (refusedWithin_takeSegment position (c :: rest)).error he
  | case3 position c rest t ht e he ih =>
    rw [← (isFront_takeSegment ht).length]
    exact ih.error he
  | case4 => exact .ok

theorem refusedWithin_read (text : String) : RefusedWithin text.length (Path.read text) := by
  unfold Path.read
  split
  · exact .ok
  · next rest _ htext =>
    have hlength : ('.' :: rest).length = text.length := by rw [← htext, String.length_toList]
    have hwithin := refusedWithin_takeSegments 0 ('.' :: rest)
    rwa [Nat.zero_add, hlength] at hwithin
  · exact .refused (Nat.zero_le _)

/-- No index is bad in a text whose digits are decimal and few enough. -/
theorem HasShortDecimals.not_startsBadIndex {fault : Number.IntegerFault} {s : List Char}
    (h : HasShortDecimals s) : ¬StartsBadIndex fault s := by
  rintro ⟨hne, hbad⟩
  have hrun := List.takeWhile_prefix Text.isDigit (l := s)
  have hdigits : ∀ c ∈ s.takeWhile Text.isDigit, Text.isDigit c = true :=
    fun c hc => List.mem_takeWhile_imp hc
  cases hbad with
  | foreign hc hnone =>
    have hdecimal := h.1 _ (hrun.subset hc) (hdigits _ hc)
    rw [← Text.isSome_decimalValue?, hnone] at hdecimal
    cases hdecimal
  | long _ hlong => exact absurd (h.2 _ hrun.isInfix hdigits) (Nat.not_le_of_lt hlong)

theorem HasShortDecimals.not_breaksOff {fault : Number.IntegerFault} {position : Nat}
    {s : List Char} (h : HasShortDecimals s) : ¬BreaksOff fault position s := by
  intro hbreaks
  induction hbreaks with
  | here hbad =>
    cases hbad with
    | plain hbad => exact (h.mono ⟨['['], [], by simp⟩).not_startsBadIndex hbad
    | point hbad => exact (h.mono ⟨['.', '['], [], by simp⟩).not_startsBadIndex hbad
    | points hbad => exact (h.mono ⟨['.', '.', '['], [], by simp⟩).not_startsBadIndex hbad
  | later ht _ ih =>
    obtain ⟨front, -, hs, -⟩ := isFront_takeSegment ht
    exact ih (h.mono ⟨front, [], by rw [hs, List.append_nil]⟩)

/-! ## 4. Paths -/

/-- A point alone is no step. -/
theorem not_steps_point (path : Path) : ¬Grammar.Steps ['.'] path := by
  intro h
  have hpoint : ∀ c ∈ ['.'], Text.isDigit c = true → Text.isDecimal c = true := by
    intro c hc hdigit
    rw [List.mem_singleton.1 hc] at hdigit
    exact absurd hdigit (by decide)
  have hshort : HasShortDecimals ['.'] :=
    ⟨hpoint, fun run hrun _ => Nat.le_trans hrun.length_le (by decide)⟩
  have hread := takeSegments_of_steps h 0 hshort
  rw [takeSegments_cons] at hread
  cases hread

theorem read_eq_ok_iff {text : String} (h : HasShortDecimals text.toList) (path : Path) :
    Path.read text = .ok path ↔ Grammar.Derives text.toList path := by
  constructor
  · intro hread
    unfold Path.read at hread
    split at hread
    · next hpoint =>
      cases hread
      exact .inl ⟨hpoint, rfl⟩
    · next htext =>
      rw [htext]
      exact .inr ⟨rfl, steps_of_takeSegments hread⟩
    · cases hread
  · rintro (⟨hpoint, rfl⟩ | ⟨hhead, hsteps⟩)
    · rw [Path.read, hpoint]
      rfl
    · have hread := takeSegments_of_steps hsteps 0 h
      -- the text begins with a point; a point alone is no step
      cases htext : text.toList with
      | nil =>
        rw [htext] at hhead
        cases hhead
      | cons c rest =>
        rw [htext] at hhead hread hsteps
        cases hhead
        cases rest with
        | nil => exact absurd hsteps (not_steps_point path)
        | cons d rest => rw [read_of_point htext, hread]

/-- A text is read as a path just when it is derived as this path, which is then the only one; any
other text is refused, at a position in it or at its end. -/
theorem read_iff_derives {text : String} (h : HasShortDecimals text.toList) :
    (∀ path, Path.read text = .ok path ↔ Grammar.Derives text.toList path) ∧
      ((¬∃ path, Grammar.Derives text.toList path) →
        ∃ cause position, Path.read text = .error (.refused cause position) ∧
          position ≤ text.length) := by
  refine ⟨read_eq_ok_iff h, fun hnot => ?_⟩
  cases hread : Path.read text with
  | ok path => exact absurd ⟨path, (read_eq_ok_iff h path).1 hread⟩ hnot
  | error fault =>
    cases fault with
    | index fault =>
      obtain ⟨rest, htext, hbreaks⟩ := read_index_iff.1 hread
      exact absurd hbreaks (htext ▸ h).not_breaksOff
    | refused cause position =>
      exact ⟨cause, position, rfl, refusedWithin_read text cause position hread⟩

/-- Brackets after a point, digits of two scripts, and a name in which a quote and a bracket stand. -/
theorem read_iff_derives_mixed :
    let text := ".a.[١2]..[\"x\\\"]\"][*]"
    HasShortDecimals text.toList ∧ ∀ path, Grammar.Derives text.toList path ↔
      path = [.field "a", .index 12, .recursive "x\"]", .wildcard] := by
  intro text
  have hdecimal : text.toList.all (fun c => !Text.isDigit c || Text.isDecimal c) = true := by
    decide +kernel
  have hshort : HasShortDecimals text.toList := by
    refine ⟨fun c hc hdigit => ?_, fun run hrun _ => ?_⟩
    · simpa [hdigit] using List.all_eq_true.1 hdecimal c hc
    · exact Nat.le_trans hrun.length_le (by decide +kernel)
  have hread : Path.read text =
      .ok [.field "a", .index 12, .recursive "x\"]", .wildcard] := by decide +kernel
  refine ⟨hshort, fun path => ?_⟩
  rw [← (read_iff_derives hshort).1, hread, Except.ok.injEq, eq_comm]

end FileQuery.Document
