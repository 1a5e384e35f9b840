import FileQuery.Proofs.Document.PathGrammar
import FileQuery.Proofs.Query.Breakdown
import FileQuery.Proofs.Query.PathWord
import FileQuery.Proofs.Query.RoundTrip

/-!
# Quoted names in paths

A quoted text in the brackets of a path is read twice: the scanner of words passes over it as over any
quoted value, and the reader of paths then takes the name of a field from it.  The scanner decodes
escapes and refuses unknown ones; the reader of paths takes the character after a backslash as it
stands.  Both take the same characters, and they get the same text from it unless one of the escapes
stands for a line end or a tab.
-/

namespace FileQuery.Query

variable {stack : Pattern.Stack}

open Document

/-- A character between quotes, alone or after a backslash. -/
inductive QuotedPiece where
  | plain (c : Char)
  | escaped (c : Char)
deriving DecidableEq, Repr

namespace QuotedPiece

def text : QuotedPiece → List Char
  | plain c => [c]
  | escaped c => ['\\', c]

def literal : QuotedPiece → Char
  | plain c => c
  | escaped c => c

def decoded : QuotedPiece → Char
  | plain c => c
  | escaped c => (unescape? c).getD c

def IsIn (quote : Char) : QuotedPiece → Prop
  | plain c => c ≠ quote ∧ c ≠ '\\'
  | escaped c => (unescape? c).isSome = true

/-- Whether the piece stands for a line feed, a tab or a carriage return by a letter. -/
def isControl : QuotedPiece → Bool
  | plain _ => false
  | escaped c => c == 'n' || c == 't' || c == 'r'

/-- The letters are the only escapes that the two readers take for different characters. -/
theorem literal_eq_decoded_iff {quote : Char} {p : QuotedPiece} (h : p.IsIn quote) :
    p.literal = p.decoded ↔ p.isControl = false := by
  cases p with
  | plain c => exact iff_of_true rfl rfl
  | escaped c =>
    show c = (unescape? c).getD c ↔ (c == 'n' || c == 't' || c == 'r') = false
    have hknown : (unescape? c).isSome = true := h
    unfold unescape? at hknown
    split at hknown
    case h_7 => cases hknown
    all_goals decide

end QuotedPiece

/-! ## 1. What the scanner takes -/

/-- The scanner has decoded some pieces when it comes to the closing quote. -/
theorem exists_pieces_of_scanQuoted {quote : Char} {start position : Nat} {taken s : List Char}
    {r : Scanned (List Char)} (h : scanQuoted quote start taken position s = .ok r) :
    ∃ pieces : List QuotedPiece, (∀ p ∈ pieces, p.IsIn quote) ∧
      s = pieces.flatMap QuotedPiece.text ++ quote :: r.rest ∧
      r.value = taken.reverse ++ pieces.map QuotedPiece.decoded := by
  -- along the characters; an escape adds a piece as a plain character does
  fun_induction scanQuoted quote start taken position s with
  | case1 => cases h
  | case2 => cases h
  | case3 => cases h
  | case4 taken position e rest c he ih =>
    obtain ⟨pieces, hpieces, hs, hvalue⟩ := ih h
    refine ⟨.escaped e :: pieces, List.forall_mem_cons.2 ⟨?_, hpieces⟩, ?_, ?_⟩
    · show (unescape? e).isSome = true
      rw [he]
      rfl
    · rw [hs]
      rfl
    · have hdecoded : (QuotedPiece.escaped e).decoded = c := by
        rw [QuotedPiece.decoded, he, Option.getD_some]
      rw [hvalue, List.reverse_cons, List.append_assoc, List.map_cons, hdecoded,
        List.singleton_append]
  | case5 taken position c rest hslash hc =>
    cases h
    rw [beq_iff_eq] at hc
    subst hc
    exact ⟨[], fun p hp => absurd hp List.not_mem_nil, rfl, (List.append_nil _).symm⟩
  | case6 taken position c rest hslash hc ih =>
    obtain ⟨pieces, hpieces, hs, hvalue⟩ := ih h
    rw [beq_iff_eq] at hc
    refine ⟨.plain c :: pieces, List.forall_mem_cons.2 ⟨⟨hc, hslash⟩, hpieces⟩, ?_, ?_⟩
    · rw [hs]
      rfl
    · rw [hvalue, List.reverse_cons, List.append_assoc]
      rfl

/-! ## 2. What the reader of paths takes -/

theorem quoted_of_pieces {quote : Char} {pieces : List QuotedPiece}
    (h : ∀ p ∈ pieces, p.IsIn quote) :
    Document.Grammar.Quoted quote (pieces.flatMap QuotedPiece.text)
      (pieces.map QuotedPiece.literal) := by
  induction pieces with
  | nil => exact .nil
  | cons p pieces ih =>
    rw [List.forall_mem_cons] at h
    have hrest := ih h.2
    cases p with
    | plain c => exact hrest.plain h.1.1 h.1.2
    | escaped c => exact hrest.escaped

def namePath (quote : Char) (text : List Char) : String :=
  ".[" ++ String.ofList (quote :: text) ++ "]"

theorem toList_namePath (quote : Char) (text : List Char) :
    (namePath quote text).toList = '.' :: '[' :: quote :: (text ++ [']']) := by
  simp [namePath]

theorem read_namePath {quote : Char} {pieces : List QuotedPiece} (hquote : isQuote quote = true)
    (h : ∀ p ∈ pieces, p.IsIn quote) :
    Path.read (namePath quote (pieces.flatMap QuotedPiece.text ++ [quote])) =
      .ok [.field (String.ofList (pieces.map QuotedPiece.literal))] := by
  rw [isQuote, Bool.or_eq_true, beq_iff_eq, beq_iff_eq] at hquote
  have hname := takeBracketed_of_quoted hquote (quoted_of_pieces h) 1 []
  have hsegment : takeSegment 0 ('.' :: '[' :: quote ::
      (pieces.flatMap QuotedPiece.text ++ quote :: [']'])) = _ := hname
  have htext := toList_namePath quote (pieces.flatMap QuotedPiece.text ++ [quote])
  rw [List.append_assoc, List.singleton_append] at htext
  rw [read_of_point htext, takeSegments_cons, hsegment]
  simp only [takeSegments]

/-! ## 3. The word -/

theorem isTail_namePath {quote : Char} {text : List Char} {start : Nat} {r : Scanned (List Char)}
    (hquote : isQuote quote = true) (h : scanQuoted quote start [] (start + 1) text = .ok r)
    (hrest : r.rest = []) : IsTail (namePath quote text).toList := by
  obtain ⟨front, htext, -, hframe⟩ := scanQuoted_frame h
  rw [hrest, List.append_nil] at htext
  subst htext
  rw [toList_namePath]
  have hbracket : IsTail ('[' :: ((quote :: (text ++ [']'])) ++ [])) := by
    refine IsTail.nil.bracket fun start position rest => ?_
    have hquoted := hframe position (position + 1) (']' :: rest)
    rw [List.cons_append, List.append_assoc]
    show scanBracket start position (quote :: (text ++ ']' :: rest)) = _
    rw [scanBracket_quoted hquote hquoted, scanBracket_close]
    simp only [List.length_cons, List.length_append, List.length_nil]
    congr 2
    omega
  rw [List.append_nil] at hbracket
  exact hbracket.append (s := ['.']) (List.all_eq_true.1 rfl)

/-- A colon is its own lower case, and stands in no name of a format. -/
theorem not_mem_colon_of_lookup_format {spelling : String} {format : Format}
    (h : formatTable.lookup (Text.lower spelling) = some format) : ':' ∉ spelling.toList := by
  intro hmem
  have hlower := mem_lower hmem (by decide +kernel) (by decide) (by decide)
  rw [lower_of_lookup_format h] at hlower
  obtain ⟨c, s, hname, -, -, -, hcolon⟩ := exists_formatName format
  exact hcolon (hname ▸ hlower)

/-- A query that is one word with a colon asks whether there is something at the path after it. -/
theorem parse_word {clock : Clock} {spelling path : String} {format : Format} {steps : Path}
    (hformat : formatTable.lookup (Text.lower spelling) = some format)
    (hpath : Path.read path = .ok steps) {stop : Nat}
    (htokens : tokenize (spelling ++ ":" ++ path) =
      .ok [⟨.word (spelling ++ ":" ++ path), 0⟩, ⟨.finish, stop⟩]) :
    parse stack clock (spelling ++ ":" ++ path) =
      .ok (.pred ⟨.document format, none, .document ⟨format, steps, .exists⟩⟩) := by
  have hcolon : ':' ∈ (spelling ++ ":" ++ path).toList := by simp
  have hderives : Grammar.Derives [⟨.word (spelling ++ ":" ++ path), 0⟩, ⟨.finish, stop⟩]
      (.pred ⟨spelling ++ ":" ++ path, 0, none⟩) := by
    have hconjuncts : Grammar.Conjuncts [⟨.word (spelling ++ ":" ++ path), 0⟩, ⟨.finish, stop⟩]
        [.pred ⟨spelling ++ ":" ++ path, 0, none⟩] [⟨.finish, stop⟩] := by
      apply Grammar.Conjuncts.last
      apply Grammar.Unary.primary
      apply Grammar.Primary.predicate
      apply Grammar.Predicate.alone (keywordOf?_of_colon hcolon)
      rintro t ⟨⟩
      rfl
    exact ⟨_, stop, .last hconjuncts, rfl⟩
  refine (parse_ok_iff htokens clock _).2 ⟨_, hderives, ?_⟩
  -- the format is before the first colon and the path is all behind it
  have hcheck : checkPredicate stack clock ⟨spelling ++ ":" ++ path, 0, none⟩ =
      .ok ⟨.document format, none, .document ⟨format, steps, .exists⟩⟩ := by
    show checkWord stack ⟨spelling ++ ":" ++ path, 0, none⟩ = _
    have hsplit := splitColon_append (not_mem_colon_of_lookup_format hformat) path
    rw [checkWord, if_pos (List.contains_iff_mem.2 hcolon), checkDocument_eq, hsplit,
      checkFormat_ok_iff.2 hformat]
    show checkPath _ _ _ >>= _ = _
    rw [checkPath_ok_iff.2 hpath]
    rfl
  show (checkPredicate stack clock ⟨spelling ++ ":" ++ path, 0, none⟩).map Expr.pred = _
  rw [hcheck]
  rfl

/-- Where a quoted text is the whole of a path, the query is one word, and its field is what the
reader of paths takes from the text.  This is the value that the scanner decodes just when no letter
after a backslash stands for a line feed, a tab or a carriage return. -/
theorem parse_quotedName (stack : Pattern.Stack) (clock : Clock) {spelling : String}
    {format : Format} {quote : Char}
    {text value : List Char} {stop : Nat}
    (hformat : formatTable.lookup (Text.lower spelling) = some format)
    (hquote : isQuote quote = true)
    (hvalue : scanQuoted quote 0 [] 1 text = .ok ⟨value, stop, []⟩) :
    let word := spelling ++ ":" ++ namePath quote text
    ∃ pieces : List QuotedPiece, (∀ p ∈ pieces, p.IsIn quote) ∧
      text = pieces.flatMap QuotedPiece.text ++ [quote] ∧
      value = pieces.map QuotedPiece.decoded ∧
      tokenize word = .ok [⟨.word word, 0⟩, ⟨.finish, word.length⟩] ∧
      parse stack clock word = .ok (.pred ⟨.document format, none, .document
        ⟨format, [.field (String.ofList (pieces.map QuotedPiece.literal))], .exists⟩⟩) ∧
      (pieces.map QuotedPiece.literal = value ↔ ∀ p ∈ pieces, p.isControl = false) := by
  obtain ⟨pieces, hpieces, htext, hdecoded⟩ := exists_pieces_of_scanQuoted hvalue
  rw [List.reverse_nil, List.nil_append] at hdecoded
  obtain ⟨c, s, hspelling, hbang, hword⟩ := exists_spelling hformat
  have htokens := (spells_colon hspelling hbang hword (isTail_namePath hquote hvalue rfl)).tokenize
  have hread := read_namePath hquote hpieces
  rw [← htext] at hread
  refine ⟨pieces, hpieces, htext, hdecoded, htokens, parse_word hformat hread htokens, ?_⟩
  -- piece by piece: the two readings of a piece differ for control characters only
  rw [show value = pieces.map QuotedPiece.decoded from hdecoded, List.map_inj_left]
  constructor
  · intro h p hp
    exact (QuotedPiece.literal_eq_decoded_iff (hpieces p hp)).1 (h p hp)
  · intro h p hp
    exact (QuotedPiece.literal_eq_decoded_iff (hpieces p hp)).2 (h p hp)

/-- An apostrophe after a backslash, between apostrophes. -/
theorem parse_quotedName_apostrophe :
    let text := ['a', '\\', '\'', 'b', '\'']
    let word := "YAML" ++ ":" ++ namePath '\'' text
    scanQuoted '\'' 0 [] 1 text = .ok ⟨['a', '\'', 'b'], 6, []⟩ ∧
      tokenize word = .ok [⟨.word word, 0⟩, ⟨.finish, 14⟩] ∧
      ∃ name, parse (.ofDepth 9) ⟨.fixed 0 0, .fixed 0⟩ word =
        .ok (.pred ⟨.document .yaml, none, .document ⟨.yaml, [.field name], .exists⟩⟩) := by
  intro text word
  have hyaml : formatTable.lookup (Text.lower "YAML") = some .yaml := by decide +kernel
  have hscan : scanQuoted '\'' 0 [] 1 text = .ok ⟨['a', '\'', 'b'], 6, []⟩ := by rfl
  obtain ⟨pieces, -, -, -, htokens, hparse, -⟩ :=
    parse_quotedName (.ofDepth 9) ⟨.fixed 0 0, .fixed 0⟩ hyaml (by decide) hscan
  have hlength : word.length = 14 := by decide +kernel
  rw [← hlength]
  exact ⟨hscan, htokens, _, hparse⟩

/-- The letter `n` after a backslash is a line feed in a value, and a letter in the name of a field. -/
theorem parse_lineFeed :
    let text := ['a', '\\', 'n', 'b', '"']
    scanQuoted '"' 0 [] 1 text = .ok ⟨['a', '\n', 'b'], 6, []⟩ ∧
      Path.read (namePath '"' text) = .ok [.field "anb"] ∧
      tokenize ("json:" ++ namePath '"' text) =
        .ok [⟨.word ("json:" ++ namePath '"' text), 0⟩, ⟨.finish, 14⟩] ∧
      "anb".toList ≠ ['a', '\n', 'b'] :=
  ⟨by rfl, by decide +kernel, by with_unfolding_all rfl, by decide⟩

end FileQuery.Query
