import FileQuery.Proofs.Document.PathText
import FileQuery.Proofs.Query.Literal.Size
import FileQuery.Proofs.Query.Printing
import FileQuery.Query.Check

/-!
# Selectors of documents are words

The format, a colon and the text of a path are one word, whatever names the path goes through: a name
that could end the word stands in brackets, where the scanner of words reads quoted text as the reader
of paths does. The reader of paths gets the path back from this text.
-/

namespace FileQuery.Query

open Document

/-! ## 1. Steps -/

theorem isWordChar_of_isNameChar {c : Char} (h : isNameChar c = true) : isWordChar c = true :=
  isWordChar_of_specials rfl h

theorem isWordChar_of_isBareName {name : String} (h : isBareName name = true) :
    ∀ c ∈ name.toList, isWordChar c = true := by
  rw [isBareName, Bool.and_eq_true, List.all_eq_true] at h
  exact fun c hc => isWordChar_of_isNameChar (h.2 c hc)

theorem scanQuoted_nameChar (c : Char) (start : Nat) (taken : List Char) (position : Nat)
    (rest : List Char) :
    scanQuoted '"' start taken position (nameChar c ++ rest) =
      scanQuoted '"' start (c :: taken) (position + (nameChar c).length) rest := by
  unfold nameChar
  split
  · next h =>
    rw [Bool.or_eq_true, beq_iff_eq, beq_iff_eq] at h
    rcases h with rfl | rfl <;> rfl
  · next h =>
    rw [Bool.or_eq_true, beq_iff_eq, beq_iff_eq, not_or] at h
    rw [List.singleton_append, scanQuoted_plain h.1, if_neg (by simpa using h.2)]
    rfl

/-- Quoted text in brackets is passed over as a whole. -/
theorem scanBracket_quoted {start position : Nat} {quote : Char} {s : List Char}
    {q : Scanned (List Char)} (hquote : isQuote quote = true)
    (h : scanQuoted quote position [] (position + 1) s = .ok q) :
    scanBracket start position (quote :: s) = scanBracket start q.position q.rest := by
  rw [scanBracket, if_pos hquote]
  split
  · next e he => rw [h] at he; cases he
  · next q' hq' =>
    rw [h] at hq'
    cases hq'
    rfl

theorem scanBracket_close (start position : Nat) (rest : List Char) :
    scanBracket start position (']' :: rest) = .ok (position + 1, rest) := by
  rw [scanBracket, if_neg (by decide), if_pos (by decide)]

theorem scanBracket_append {s : List Char} (hs : ∀ c ∈ s, isQuote c = false ∧ c ≠ ']')
    (start position : Nat) (rest : List Char) :
    scanBracket start position (s ++ rest) = scanBracket start (position + s.length) rest := by
  induction s generalizing position with
  | nil => rfl
  | cons c s ih =>
    rw [List.forall_mem_cons] at hs
    rw [List.cons_append, scanBracket, if_neg (by simp [hs.1.1]), if_neg (by simpa using hs.1.2),
      ih hs.2, List.length_cons]
    congr 1
    omega

theorem scanBracket_plain {s : List Char} (hs : ∀ c ∈ s, isQuote c = false ∧ c ≠ ']')
    (start position : Nat) (rest : List Char) :
    scanBracket start position (s ++ ']' :: rest) = .ok (position + (s.length + 1), rest) := by
  rw [scanBracket_append hs, scanBracket_close, Nat.add_assoc]

theorem IsTail.quotedName {t : List Char} (name : String) (ht : IsTail t) :
    IsTail ((quotedName name).toList ++ t) := by
  have hbracket : IsTail ('[' :: (('"' :: (name.toList.flatMap nameChar ++ ['"', ']'])) ++ t)) := by
    -- a bracket or a quote in the name does not end the brackets early
    refine ht.bracket fun start position rest => ?_
    have hquoted := scanQuoted_flatMap scanQuoted_nameChar name.toList position [] (position + 1)
      (']' :: rest)
    rw [List.cons_append, List.append_assoc]
    show scanBracket start position ('"' :: (name.toList.flatMap nameChar ++ '"' :: ']' :: rest)) = _
    rw [scanBracket_quoted (by decide) hquoted, scanBracket_close, List.length_cons, List.length_append]
    simp only [List.length_cons, List.length_nil]
    congr 2
    omega
  rw [toList_quotedName]
  exact hbracket

theorem IsTail.segment {t : List Char} (segment : Segment) (ht : IsTail t) :
    IsTail (segment.text.toList ++ t) := by
  have hpoint : ∀ s, IsTail s → IsTail ('.' :: s) := fun s hs =>
    hs.append (s := ['.']) (List.all_eq_true.1 rfl)
  cases segment with
  | field name =>
    rw [Segment.text]
    split
    · next hbare =>
      rw [String.toList_append, List.append_assoc]
      have hname : IsTail (name.toList ++ t) := ht.append (isWordChar_of_isBareName hbare)
      exact hpoint _ hname
    · exact .quotedName name ht
  | «recursive» name =>
    have hname : IsTail ((nameText name).toList ++ t) := by
      rw [nameText]
      split
      · next hbare => exact ht.append (isWordChar_of_isBareName hbare)
      · exact .quotedName name ht
    rw [Segment.text, String.toList_append, List.append_assoc]
    exact hpoint _ (hpoint _ hname)
  | index n =>
    have htext : (Segment.index n).text.toList = '[' :: (Nat.toDigits 10 n ++ [']']) := by
      simp [Segment.text]
    rw [htext]
    refine ht.bracket fun start position rest => ?_
    rw [List.append_assoc, List.length_append]
    refine scanBracket_plain (fun c hc => ?_) start position rest
    have hdigit := Number.isDigit_of_mem_toDigits hc
    exact ⟨isQuote_of_isWordChar (isWordChar_of_isDigit hdigit), Text.ne_of_isDigit hdigit rfl⟩
  | wildcard =>
    exact ht.bracket (s := ['*', ']']) fun start position rest =>
      scanBracket_plain (s := ['*']) (by simp [isQuote]) start position rest

/-! ## 2. Selectors -/

theorem isTail_path (path : Path) : IsTail path.text.toList := by
  have hjoin : IsTail (String.join (path.map Segment.text)).toList := by
    rw [toList_join_text]
    induction path with
    | nil => exact .nil
    | cons segment path ih =>
      rw [List.flatMap_cons]
      exact ih.segment segment
  rw [Path.text]
  split
  · exact hjoin
  · rw [String.toList_append]
    exact hjoin.append (List.all_eq_true.1 rfl)

theorem toList_selectorText (m : Matcher) :
    m.selectorText.toList = m.format.name.toList ++ ':' :: m.path.text.toList := by
  simp [Matcher.selectorText]

/-- The name of a format is letters, and a path goes on after it and the colon. -/
theorem exists_formatName (format : Format) : ∃ c s, format.name.toList = c :: s ∧ c ≠ '!' ∧
    c ≠ '=' ∧ (∀ d ∈ c :: s, isWordChar d = true) ∧ ':' ∉ c :: s := by
  cases format <;> exact ⟨_, _, rfl, by decide, by decide, List.all_eq_true.1 rfl, by decide⟩

/-- What goes on a word is one word with what stands before it and a colon, if that is a word as
well. -/
theorem spells_colon {front : String} {c : Char} {s : List Char} (hfront : front.toList = c :: s)
    (hbang : c ≠ '!') (hword : ∀ d ∈ c :: s, isWordChar d = true) {text : String}
    (htail : IsTail text.toList) :
    Spells (front ++ ":" ++ text).toList (.word (front ++ ":" ++ text)) := by
  have htext : (front ++ ":" ++ text).toList = c :: (s ++ ':' :: text.toList) := by
    simp [hfront]
  rw [List.forall_mem_cons] at hword
  have hcolon : IsTail (':' :: text.toList) := htail.append (s := [':']) (List.all_eq_true.1 rfl)
  have hspells := spells_word (isSeparator_of_isWordChar hword.1)
    (startsWord_of_isWordChar hword.1 fun hc => absurd hc hbang) (hcolon.append hword.2)
  rwa [← htext, String.ofList_toList] at hspells

theorem spells_selectorText (m : Matcher) :
    Spells m.selectorText.toList (.word m.selectorText) := by
  obtain ⟨c, s, hname, hbang, -, hword, -⟩ := exists_formatName m.format
  exact spells_colon hname hbang hword (isTail_path m.path)

theorem keywordOf?_of_colon {word : String} (h : ':' ∈ word.toList) : keywordOf? word = none := by
  have hmem : ':' ∈ word.toList.map Char.toUpper := List.mem_map.2 ⟨':', h, by decide⟩
  unfold keywordOf?
  split
  case h_4 => rfl
  all_goals
    next heq =>
      have hchars := congrArg String.toList heq
      rw [String.toList_ofList] at hchars
      rw [hchars] at hmem
      exact absurd hmem (by decide)

theorem splitColon_append {front : String} (hfront : ':' ∉ front.toList) (rest : String) :
    splitColon (front ++ ":" ++ rest) = (front, rest) := by
  have htext : (front ++ ":" ++ rest).toList = front.toList ++ ':' :: rest.toList := by simp
  have htake : (front ++ ":" ++ rest).toList.takeWhile (· != ':') = front.toList := by
    rw [htext, List.takeWhile_append_of_pos, List.takeWhile_cons_of_neg (by simp), List.append_nil]
    intro c hc
    exact bne_iff_ne.2 fun heq => hfront (heq ▸ hc)
  rw [splitColon, htake, htext]
  simp

theorem splitColon_selectorText (m : Matcher) :
    splitColon m.selectorText = (m.format.name, m.path.text) := by
  obtain ⟨c, s, hname, -, -, -, hcolon⟩ := exists_formatName m.format
  exact splitColon_append (hname ▸ hcolon) m.path.text

/-! ## 3. Paths and their texts -/

/-- A character that is its own lower case stays in a text in lower case. -/
theorem mem_lower {c : Char} {s : String} (h : c ∈ s.toList) (hself : Text.lowerChar c = c)
    (hsigma : c ≠ 'Σ') (hdotted : c ≠ 'İ') : c ∈ (Text.lower s).toList := by
  rw [Text.lower, String.toList_ofList]
  generalize ([] : List Char) = before
  generalize s.toList = cs at h
  induction cs generalizing before with
  | nil => cases h
  | cons d rest ih =>
    rw [Text.lowerFrom, List.mem_append]
    cases h with
    | head => exact .inl (by simp [hself, hsigma, hdotted])
    | tail _ hrest => exact .inr (ih _ hrest)

theorem lower_of_lookup_format {spelling : String} {format : Format}
    (h : formatTable.lookup (Text.lower spelling) = some format) :
    Text.lower spelling = format.name := by
  obtain ⟨before, after, htable, -⟩ := List.lookup_eq_some_iff.1 h
  have hnames : ∀ entry ∈ formatTable, entry.1 = entry.2.name := by decide
  exact hnames _ (htable ▸ List.mem_append_right before List.mem_cons_self)

/-- However the name of a format is spelled, it is a word: a character that may not stand in a word
is its own lower case, and no name of a format has one. -/
theorem exists_spelling {spelling : String} {format : Format}
    (h : formatTable.lookup (Text.lower spelling) = some format) :
    ∃ c s, spelling.toList = c :: s ∧ c ≠ '!' ∧ ∀ d ∈ c :: s, isWordChar d = true := by
  have hlower := lower_of_lookup_format h
  -- the characters that can stand in a spelling of this name
  let p (d : Char) : Bool :=
    Text.lowerChar d != d || d == 'Σ' || d == 'İ' || format.name.toList.contains d
  have hp : ∀ d ∈ spelling.toList, p d = true := by
    intro d hd
    by_contra hnot
    simp only [p, Bool.not_eq_true, Bool.or_eq_false_iff, bne_eq_false_iff_eq, beq_eq_false_iff_ne]
      at hnot
    obtain ⟨⟨⟨hself, hsigma⟩, hdotted⟩, hname⟩ := hnot
    have hmem := mem_lower hd hself hsigma hdotted
    rw [hlower] at hmem
    simp [hmem] at hname
  have hspecials : ('!' :: specials).any p = false := by
    cases format <;> decide +kernel
  rw [List.any_cons, Bool.or_eq_false_iff] at hspecials
  cases hchars : spelling.toList with
  | nil =>
    have hempty : spelling = "" := String.toList_eq_nil_iff.1 hchars
    rw [hempty] at hlower
    cases format <;> exact absurd hlower (by decide)
  | cons c s =>
    rw [hchars] at hp
    refine ⟨c, s, rfl, fun hbang => ?_, fun d hd => isWordChar_of_specials hspecials.2 (hp d hd)⟩
    have hc := hp c List.mem_cons_self
    rw [hbang, hspecials.1] at hc
    cases hc

/-- The text of a path is read as this path; and after a format, in whatever case, and a colon it is
a single word. -/
theorem path_text_isRead {path : Path} (h : ∀ segment ∈ path, segment.IsReadable) :
    Path.read path.text = .ok path ∧
      ∀ spelling format, formatTable.lookup (Text.lower spelling) = some format →
        let word := spelling ++ ":" ++ path.text
        tokenize word = .ok [⟨.word word, 0⟩, ⟨.finish, word.length⟩] := by
  refine ⟨read_text h, fun spelling format hformat => ?_⟩
  obtain ⟨c, s, hspelling, hbang, hword⟩ := exists_spelling hformat
  exact (spells_colon hspelling hbang hword (isTail_path path)).tokenize

/-- An empty name, quotes, brackets, a backslash, a point and a line end in one path. -/
theorem path_text_isRead_quoted :
    let path : Path := [.field "", .recursive "a\"]\\", .index 12, .wildcard, .field "b.c",
      .recursive "x\ny"]
    (∀ segment ∈ path, segment.IsReadable) ∧
      path.text = ".[\"\"]..[\"a\\\"]\\\\\"][12][*][\"b.c\"]..[\"x\ny\"]" ∧
      formatTable.lookup (Text.lower "YAML") = some .yaml ∧
      Path.read path.text = .ok path ∧
      tokenize ("YAML:" ++ path.text) =
        .ok [⟨.word ("YAML:" ++ path.text), 0⟩, ⟨.finish, 45⟩] := by
  intro path
  have hindex : 12 < 10 ^ Number.digitLimit :=
    Nat.lt_of_lt_of_le (by decide : 12 < 10 ^ 2) (Nat.pow_le_pow_right (by decide) (by decide))
  have hpath : ∀ segment ∈ path, segment.IsReadable := by
    simpa only [path, List.forall_mem_cons, List.not_mem_nil, Segment.IsReadable, true_and,
      and_true, false_imp_iff, implies_true] using hindex
  have hyaml : formatTable.lookup (Text.lower "YAML") = some .yaml := by decide +kernel
  obtain ⟨hread, htokens⟩ := path_text_isRead hpath
  have hlength : ("YAML:" ++ path.text).length = 45 := by decide +kernel
  refine ⟨hpath, by decide +kernel, hyaml, hread, ?_⟩
  rw [← hlength]
  exact htokens "YAML" .yaml hyaml

end FileQuery.Query
