import FileQuery.Document.Path.Reader
import FileQuery.Proofs.Number.Decimal
import FileQuery.Proofs.Result

/-!
# Written paths are read back

The text of a path is read as that path: names that need it stand in quotes, and a name without quotes
ends where the next step begins.  The only condition is that the indices can be written at all, which
holds of every path that was read.
-/

namespace FileQuery.Document

/-- Whether an index has few enough digits to be read. -/
def Segment.IsReadable : Segment → Prop
  | .index n => n < 10 ^ Number.digitLimit
  | _ => True

namespace Grammar

/-- `quoted`, without the quotes around it: the name that it stands for.  A backslash takes the
character after it as it is, and the quote itself only stands there after a backslash. -/
inductive Quoted (quote : Char) : List Char → List Char → Prop
  | nil : Quoted quote [] []
  | plain {c : Char} {s name : List Char} :
      c ≠ quote → c ≠ '\\' → Quoted quote s name → Quoted quote (c :: s) (c :: name)
  | escaped {c : Char} {s name : List Char} :
      Quoted quote s name → Quoted quote ('\\' :: c :: s) (c :: name)

end Grammar

/-! ## 1. Names -/

def StartsStep (s : List Char) : Prop := ∀ c ∈ s.head?, c = '.' ∨ c = '['

theorem StartsStep.not_isNameChar {s : List Char} (h : StartsStep s) {c : Char}
    (hc : c ∈ s.head?) : isNameChar c = false := by
  rcases h c hc with rfl | rfl <;> decide

theorem takeQuoted_of_quoted {quote : Char} {body more : List Char}
    (h : Grammar.Quoted quote body more) (start : Nat) (name : List Char) (position : Nat)
    (rest : List Char) (hquote : quote ≠ '\\') :
    takeQuoted quote start name position (body ++ quote :: rest) =
      .ok ⟨String.ofList (name.reverse ++ more), position + body.length + 1, rest⟩ := by
  -- the characters of the name are gathered in reverse
  induction h generalizing name position with
  | nil =>
    rw [List.nil_append, takeQuoted.eq_def]
    simp
  | @plain c s more hne hslash _ ih =>
    rw [List.cons_append, takeQuoted.eq_def]
    simp only [beq_eq_false_iff_ne.2 hne, beq_eq_false_iff_ne.2 hslash, Bool.false_eq_true, if_false]
    rw [ih, List.reverse_cons, List.append_assoc, List.singleton_append, List.length_cons]
    congr 2
    omega
  | @escaped c s more _ ih =>
    rw [List.cons_append, List.cons_append, takeQuoted.eq_def]
    simp only [beq_eq_false_iff_ne.2 hquote.symm, beq_self_eq_true, Bool.false_eq_true, if_false,
      if_true]
    rw [ih, List.reverse_cons, List.append_assoc, List.singleton_append, List.length_cons,
      List.length_cons]
    congr 2
    omega

theorem quoted_flatMap (s : List Char) : Grammar.Quoted '"' (s.flatMap nameChar) s := by
  induction s with
  | nil => exact .nil
  | cons c s ih =>
    rw [List.flatMap_cons, nameChar]
    split
    · exact ih.escaped
    · next hc =>
      rw [Bool.or_eq_true, beq_iff_eq, beq_iff_eq, not_or] at hc
      exact ih.plain hc.2 hc.1

theorem takeName_bare {name : String} (h : isBareName name = true) (position : Nat)
    {rest : List Char} (hrest : StartsStep rest) :
    takeName position (name.toList ++ rest) =
      .ok ⟨name, position + name.toList.length, rest⟩ := by
  simp only [isBareName, Bool.and_eq_true, Bool.not_eq_true', List.all_eq_true] at h
  have htake : (name.toList ++ rest).takeWhile isNameChar = name.toList := by
    rw [List.takeWhile_append_of_pos h.2]
    cases rest with
    | nil => simp
    | cons c rest =>
      rw [List.takeWhile_cons_of_neg (by simp [hrest.not_isNameChar rfl]), List.append_nil]
  have hne : name.toList ≠ [] := by
    intro hnil
    rw [String.toList_eq_nil_iff] at hnil
    subst hnil
    exact absurd h.1 (by decide)
  rw [takeName, htake]
  simp only [List.isEmpty_iff, hne, if_false, String.ofList_toList, List.drop_left]

/-! ## 2. Brackets -/

theorem toList_quotedName (name : String) : (quotedName name).toList =
    '[' :: '"' :: (name.toList.flatMap nameChar ++ ['"', ']']) := by
  simp [quotedName]

/-- A quoted name between brackets is read, whatever stands in it. -/
theorem takeBracketed_of_quoted {quote : Char} {body name : List Char}
    (hquote : quote = '"' ∨ quote = '\'') (h : Grammar.Quoted quote body name) (start : Nat)
    (rest : List Char) :
    takeBracketed start (quote :: (body ++ quote :: ']' :: rest)) =
      .ok ⟨.field (String.ofList name), start + body.length + 4, rest⟩ := by
  have hslash : quote ≠ '\\' := by rcases hquote with rfl | rfl <;> decide
  have hstar : (quote == '*') = false := by rcases hquote with rfl | rfl <;> rfl
  have hmark : (quote == '"' || quote == '\'') = true := by rcases hquote with rfl | rfl <;> rfl
  have htake := takeQuoted_of_quoted h (start + 1) [] (start + 2) (']' :: rest) hslash
  rw [takeBracketed, takeInside, hstar, hmark, htake]
  simp only [Except.map, List.reverse_nil, List.nil_append, Except.ok.injEq, Taken.mk.injEq,
    true_and, and_true, Bool.false_eq_true, if_false, if_true]
  omega

theorem takeBracketed_quoted (name : String) (start : Nat) (rest : List Char) :
    takeBracketed start ('"' :: (name.toList.flatMap nameChar ++ '"' :: ']' :: rest)) =
      .ok ⟨.field name, start + (quotedName name).toList.length, rest⟩ := by
  rw [takeBracketed_of_quoted (.inl rfl) (quoted_flatMap name.toList), String.ofList_toList,
    toList_quotedName]
  simp only [List.length_cons, List.length_append, List.length_nil]
  congr 2

/-- Where digits stand between brackets, they are read as a number. -/
theorem takeInside_digits {digits : List Char} (hne : digits ≠ [])
    (hdigits : ∀ c ∈ digits, Text.isDigit c = true) (start position : Nat) (rest : List Char) :
    takeInside start position (digits ++ ']' :: rest) =
      match Number.readDigits (String.ofList digits) digits with
      | .error fault => .error (.index fault)
      | .ok n => .ok ⟨.index n, position + digits.length, ']' :: rest⟩ := by
  have htake : (digits ++ ']' :: rest).takeWhile Text.isDigit = digits := by
    rw [List.takeWhile_append_of_pos hdigits, List.takeWhile_cons_of_neg (by decide),
      List.append_nil]
  obtain ⟨c, digits, rfl⟩ := List.exists_cons_of_ne_nil hne
  have hc := hdigits c List.mem_cons_self
  -- stars and quotes are no digits
  have hother : ∀ d, Text.isDigit d = false → (c == d) = false := by
    intro d hd
    rw [beq_eq_false_iff_ne]
    rintro rfl
    rw [hc] at hd
    cases hd
  have hdrop : (c :: (digits ++ ']' :: rest)).drop (c :: digits).length = ']' :: rest := by
    rw [← List.cons_append, List.drop_left]
  rw [List.cons_append] at htake ⊢
  rw [takeInside, hother '*' (by decide), hother '"' (by decide), hother '\'' (by decide), hc, htake]
  cases hread : Number.readDigits (String.ofList (c :: digits)) (c :: digits) <;>
    simp only [Bool.or_self, Bool.false_eq_true, if_false, if_true, hdrop, hread]

theorem takeBracketed_index {n : Nat} (h : n < 10 ^ Number.digitLimit) (start : Nat)
    (rest : List Char) :
    takeBracketed start (Nat.toDigits 10 n ++ ']' :: rest) =
      .ok ⟨.index n, start + (Nat.toDigits 10 n).length + 2, rest⟩ := by
  have hdigits : ∀ c ∈ Nat.toDigits 10 n, Text.isDigit c = true := fun c hc =>
    Text.isDigit_of_isDigit (Number.isDigit_of_mem_toDigits hc)
  have hposition : start + 1 + (Nat.toDigits 10 n).length + 1 =
      start + (Nat.toDigits 10 n).length + 2 := by omega
  rw [takeBracketed, takeInside_digits Nat.toDigits_ne_nil hdigits, Number.readDigits_toDigits h]
  simp only [hposition]

theorem takeBracketed_wildcard (start : Nat) (rest : List Char) :
    takeBracketed start ('*' :: ']' :: rest) = .ok ⟨.wildcard, start + 3, rest⟩ := rfl

/-! ## 3. Steps -/

theorem exists_of_isBareName {name : String} (h : isBareName name = true) :
    ∃ c cs, name.toList = c :: cs ∧ c ≠ '.' ∧ c ≠ '[' := by
  simp only [isBareName, Bool.and_eq_true, Bool.not_eq_true', List.all_eq_true] at h
  cases hname : name.toList with
  | nil =>
    rw [String.toList_eq_nil_iff] at hname
    subst hname
    exact absurd h.1 (by decide)
  | cons c cs =>
    have hc := h.2 c (hname ▸ List.mem_cons_self)
    refine ⟨c, cs, rfl, ?_, ?_⟩ <;>
    · rintro rfl
      exact absurd hc (by decide)

theorem takeSegment_field {name : String} (h : isBareName name = true) (position : Nat)
    {rest : List Char} (hrest : StartsStep rest) :
    takeSegment position ('.' :: (name.toList ++ rest)) =
      .ok ⟨.field name, position + 1 + name.toList.length, rest⟩ := by
  have hname := takeName_bare h (position + 1) hrest
  obtain ⟨c, cs, hcs, hpoint, hbracket⟩ := exists_of_isBareName h
  rw [hcs] at hname ⊢
  rw [List.cons_append] at hname ⊢
  rw [takeSegment, hname]
  · rfl
  all_goals simp [hpoint, hbracket]

theorem takeSegment_recursive {name : String} (h : isBareName name = true) (position : Nat)
    {rest : List Char} (hrest : StartsStep rest) :
    takeSegment position ('.' :: '.' :: (name.toList ++ rest)) =
      .ok ⟨.recursive name, position + 2 + name.toList.length, rest⟩ := by
  have hname := takeName_bare h (position + 2) hrest
  obtain ⟨c, cs, hcs, -, hbracket⟩ := exists_of_isBareName h
  rw [hcs] at hname ⊢
  rw [List.cons_append] at hname ⊢
  rw [takeSegment, hname]
  · rfl
  all_goals simp [hbracket]

/-- A quoted name as the reader meets it. -/
theorem toList_quotedName_append (name : String) (rest : List Char) :
    (quotedName name).toList ++ rest =
      '[' :: '"' :: (name.toList.flatMap nameChar ++ '"' :: ']' :: rest) := by
  simp [toList_quotedName]

/-- A step is read before another one, or at the end. -/
theorem takeSegment_text {segment : Segment} (h : segment.IsReadable) (position : Nat)
    {rest : List Char} (hrest : StartsStep rest) :
    takeSegment position (segment.text.toList ++ rest) =
      .ok ⟨segment, position + segment.text.toList.length, rest⟩ := by
  -- a name that cannot stand bare is written in brackets and quotes
  cases segment with
  | field name =>
    rw [Segment.text]
    split
    · next hbare =>
      have htext : ("." ++ name).toList = '.' :: name.toList := by simp
      rw [htext, List.cons_append, takeSegment_field hbare position hrest, List.length_cons]
      congr 2
      omega
    · rw [toList_quotedName_append]
      exact takeBracketed_quoted name position rest
  | «recursive» name =>
    rw [Segment.text, nameText]
    split
    · next hbare =>
      have htext : (".." ++ name).toList = '.' :: '.' :: name.toList := by simp
      rw [htext, List.cons_append, List.cons_append, takeSegment_recursive hbare position hrest,
        List.length_cons, List.length_cons]
      congr 2
      omega
    · have htext : (".." ++ quotedName name).toList = '.' :: '.' :: (quotedName name).toList := by
        simp
      rw [htext, List.cons_append, List.cons_append, toList_quotedName_append, takeSegment,
        takeBracketed_quoted]
      have hposition : position + 2 + (quotedName name).toList.length =
          position + ('.' :: '.' :: (quotedName name).toList).length := by
        rw [List.length_cons, List.length_cons]
        omega
      simp only [hposition]
  | index n =>
    have htext : (Segment.index n).text.toList = '[' :: (Nat.toDigits 10 n ++ [']']) := by
      simp [Segment.text]
    have hread := takeBracketed_index h position rest
    rw [htext, List.cons_append, List.append_assoc, List.singleton_append, takeSegment, hread,
      List.length_cons, List.length_append]
    rfl
  | wildcard => exact takeBracketed_wildcard position rest

/-! ## 4. Paths -/

theorem exists_text (segment : Segment) :
    ∃ c d s, segment.text.toList = c :: d :: s ∧ (c = '.' ∨ c = '[') := by
  cases segment with
  | field name =>
    rw [Segment.text]
    split
    · next hbare =>
      obtain ⟨c, cs, hcs, -⟩ := exists_of_isBareName hbare
      exact ⟨'.', c, cs, by simp [hcs], .inl rfl⟩
    · exact ⟨'[', '"', _, toList_quotedName name, .inr rfl⟩
  | «recursive» name => exact ⟨'.', '.', (nameText name).toList, by simp [Segment.text], .inl rfl⟩
  | index n =>
    obtain ⟨c, digits, hdigits, -⟩ := Number.exists_toDigits n
    exact ⟨'[', c, digits ++ [']'], by simp [Segment.text, hdigits], .inr rfl⟩
  | wildcard => exact ⟨'[', '*', [']'], rfl, .inr rfl⟩

theorem startsStep_flatMap (path : Path) :
    StartsStep (path.flatMap fun segment => segment.text.toList) := by
  cases path with
  | nil => simp [StartsStep]
  | cons segment path =>
    obtain ⟨c, d, s, htext, hc⟩ := exists_text segment
    rw [List.flatMap_cons, htext]
    intro e he
    cases he
    exact hc

/-- The reader of steps without the facts that make it end. -/
theorem takeSegments_cons (position : Nat) (c : Char) (rest : List Char) :
    takeSegments position (c :: rest) =
      match takeSegment position (c :: rest) with
      | .error e => .error e
      | .ok t =>
        match takeSegments t.position t.rest with
        | .error e => .error e
        | .ok path => .ok (t.value :: path) := by
  rw [takeSegments]
  split
  · next h => simp only [h]
  · next h => exact h ▸ rfl

theorem takeSegments_text {path : Path} (h : ∀ segment ∈ path, segment.IsReadable)
    (position : Nat) :
    takeSegments position (path.flatMap fun segment => segment.text.toList) = .ok path := by
  induction path generalizing position with
  | nil =>
    rw [List.flatMap_nil, takeSegments]
  | cons segment path ih =>
    rw [List.forall_mem_cons] at h
    -- a step ends where the next one starts, so each is read on its own
    have hread := takeSegment_text h.1 position (startsStep_flatMap path)
    obtain ⟨c, d, s, htext, -⟩ := exists_text segment
    rw [List.flatMap_cons, htext, List.cons_append, takeSegments_cons, ← List.cons_append, ← htext,
      hread]
    simp only [ih h.2]

/-- A point before brackets changes nothing but the position. -/
theorem takeSegments_point (position : Nat) (rest : List Char) :
    takeSegments position ('.' :: '[' :: rest) = takeSegments (position + 1) ('[' :: rest) := by
  rw [takeSegments_cons, takeSegments_cons]
  rfl

theorem toList_join_text (path : Path) : (String.join (path.map Segment.text)).toList =
    path.flatMap fun segment => segment.text.toList := by
  rw [String.toList_join, List.flatMap_map]

theorem read_of_point {text : String} {c : Char} {rest : List Char}
    (h : text.toList = '.' :: c :: rest) :
    Path.read text = takeSegments 0 ('.' :: c :: rest) := by
  rw [Path.read, h]
  rfl

/-- A path is read back from its text. -/
theorem read_text {path : Path} (h : ∀ segment ∈ path, segment.IsReadable) :
    Path.read path.text = .ok path := by
  cases path with
  | nil => rfl
  | cons segment path =>
    obtain ⟨c, d, s, htext, hc⟩ := exists_text segment
    have hlist := toList_join_text (segment :: path)
    rw [List.flatMap_cons, htext, List.cons_append, List.cons_append] at hlist
    have hread := takeSegments_text h
    rw [List.flatMap_cons, htext, List.cons_append, List.cons_append] at hread
    rw [Path.text]
    -- a path begins with a point, and one is put before a bracket
    rcases hc with rfl | rfl
    · rw [hlist, List.head?_cons, if_pos (by decide), read_of_point hlist]
      exact hread 0
    · have hpoint : ("." ++ String.join ((segment :: path).map Segment.text)).toList =
          '.' :: '[' :: (d :: (s ++ path.flatMap fun segment => segment.text.toList)) := by
        rw [String.toList_append, hlist]
        rfl
      rw [hlist, List.head?_cons, if_neg (by decide), read_of_point hpoint, takeSegments_point]
      exact hread 1

/-! ## 5. Paths that are read have readable texts -/

theorem isReadable_of_takeInside {start position : Nat} {s : List Char} {t : Taken Segment}
    (h : takeInside start position s = .ok t) : t.value.IsReadable := by
  unfold takeInside at h
  split at h
  · cases h
  · split at h
    · cases h
      exact trivial
    · split at h
      · obtain ⟨u, -, rfl⟩ := map_eq_ok.1 h
        exact trivial
      · split at h
        · dsimp only at h
          split at h
          · cases h
          · next hdigits =>
            cases h
            exact Number.lt_of_readDigits hdigits
        · cases h

theorem isReadable_of_takeBracketed {start : Nat} {s : List Char} {t : Taken Segment}
    (h : takeBracketed start s = .ok t) : t.value.IsReadable := by
  unfold takeBracketed at h
  split at h
  · cases h
  · next hinside =>
    have hreadable := isReadable_of_takeInside hinside
    split at h
    · cases h
      exact hreadable
    · cases h

theorem isReadable_of_takeSegment {position : Nat} {s : List Char} {t : Taken Segment}
    (h : takeSegment position s = .ok t) : t.value.IsReadable := by
  unfold takeSegment at h
  split at h
  · split at h
    · cases h
    · cases h
      exact trivial
    · cases h
  · obtain ⟨u, -, rfl⟩ := map_eq_ok.1 h
    exact trivial
  · exact isReadable_of_takeBracketed h
  · obtain ⟨u, -, rfl⟩ := map_eq_ok.1 h
    exact trivial
  · exact isReadable_of_takeBracketed h
  · cases h
  · cases h

theorem isReadable_of_takeSegments {position : Nat} {s : List Char} {path : Path}
    (h : takeSegments position s = .ok path) : ∀ segment ∈ path, segment.IsReadable := by
  fun_induction takeSegments position s generalizing path with
  | case1 =>
    cases h
    simp
  | case2 => cases h
  | case3 => cases h
  | case4 position c rest t ht rest' hrest ih =>
    cases h
    exact List.forall_mem_cons.2 ⟨isReadable_of_takeSegment ht, ih hrest⟩

theorem isReadable_of_read {text : String} {path : Path} (h : Path.read text = .ok path) :
    ∀ segment ∈ path, segment.IsReadable := by
  unfold Path.read at h
  split at h
  · cases h
    simp
  · exact isReadable_of_takeSegments h
  · cases h

end FileQuery.Document
