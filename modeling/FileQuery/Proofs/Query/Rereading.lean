import FileQuery.Proofs.Query.Printing
import FileQuery.Proofs.Query.Rechecking

/-!
# Canonical texts of predicates are read back

A predicate is written with the canonical names of its selector and operator and with its value.  Each
of these is one token, and the check of the three gives what the text of the value tells.  Predicates
that were lone words are written as comparisons, so they are shown to be what the check of a comparison
gives.
-/

namespace FileQuery.Query

variable {stack : Pattern.Stack}

/-! ## 1. Predicates as tokens -/

section tokens

variable {p : Predicate} {word operator text : String} {l : Lexeme}

theorem Predicate.Rereads.of_comparison (htext : p.text = word ++ " " ++ operator ++ " " ++ text)
    (hhead : word.toList.head? ≠ some '=') (hword : Spells word.toList (.word word))
    (hkeyword : keywordOf? word = none) (hoperator : Spells operator.toList (.word operator))
    (hoperator' : keywordOf? operator = none) (hvalue : Spells text.toList l)
    (hcheck : ∀ clock position place stop, ∃ value, Token.value? ⟨l, stop⟩ = some value ∧
      checkPredicate stack clock ⟨word, position, some ⟨operator, place, value⟩⟩ = .ok p.reread) :
    p.Rereads stack := by
  have hlist : p.text.toList = word.toList ++ ' ' :: (operator.toList ++ ' ' :: text.toList) := by
    simp [htext]
  refine ⟨?_, ?_⟩
  · rw [hlist]
    refine ⟨_, hword.lexes.blank (hoperator.lexes.blank hvalue.lexes), fun clock ts us hts _ => ?_⟩
    -- three tokens, wherever they stand
    obtain ⟨⟨_, position⟩, _, rfl, rfl, hts'⟩ := List.map_eq_cons_iff.1 hts
    obtain ⟨⟨_, place⟩, _, rfl, rfl, hts''⟩ := List.map_eq_cons_iff.1 hts'
    obtain ⟨⟨_, stop⟩, _, rfl, rfl, hnil⟩ := List.map_eq_cons_iff.1 hts''
    rw [List.map_eq_nil_iff] at hnil
    subst hnil
    obtain ⟨value, hsome, hp⟩ := hcheck clock position place stop
    refine ⟨_, .predicate (.comparison hkeyword hoperator' hsome), ?_⟩
    rw [RawExpr.flat, RawExpr.check, hp]
    rfl
  · obtain ⟨c, s, hcons, -⟩ := hword
    rw [hlist, hcons]
    rwa [hcons] at hhead

theorem Predicate.Rereads.of_word (htext : p.text = word) (hhead : word.toList.head? ≠ some '=')
    (hword : Spells word.toList (.word word)) (hkeyword : keywordOf? word = none)
    (hcheck : ∀ clock position, checkPredicate stack clock ⟨word, position, none⟩ = .ok p.reread) :
    p.Rereads stack := by
  refine ⟨?_, htext ▸ hhead⟩
  rw [htext]
  refine ⟨_, hword.lexes, fun clock ts us hts hus => ?_⟩
  obtain ⟨⟨_, position⟩, _, rfl, rfl, hnil⟩ := List.map_eq_cons_iff.1 hts
  rw [List.map_eq_nil_iff] at hnil
  subst hnil
  refine ⟨_, .predicate (.alone hkeyword hus), ?_⟩
  rw [RawExpr.flat, RawExpr.check, hcheck]
  rfl

end tokens

theorem checkOperator_spelling {family : Family} {op : Operator}
    (hop : op ∈ (operatorTable family).map Prod.snd) (position : Nat) (value : RawValue)
    (selector : String) : checkOperator ⟨op.spelling, position, value⟩ family selector = .ok op := by
  rw [checkOperator]
  dsimp only
  rw [lookup_spelling family op hop]

/-! ## 2. Attributes -/

/-- A predicate on an attribute, with a value that was accepted for its selector and operator. -/
inductive Predicate.OnAttribute (stack : Pattern.Stack) (clock : Clock) : Predicate → Prop
  | intro {selector : Selector} {op : Operator} {value : RawValue} {operand : Operand} :
      selector ∈ selectorTable.map Prod.snd → op ∈ (operatorTable selector.family).map Prod.snd →
      checkValue stack clock selector op value = .ok operand →
      OnAttribute stack clock ⟨selector, some op, operand⟩

theorem exists_id (selector : Selector) : ∃ c s, selector.id.toList = c :: s ∧ c ≠ '=' ∧
    ':' ∉ c :: s := by
  cases selector with
  | document format =>
    obtain ⟨c, s, hname, -, hc, -, hcolon⟩ := exists_formatName format
    exact ⟨c, s, hname, hc, hcolon⟩
  | _ => exact ⟨_, _, rfl, by decide, by decide⟩

theorem Predicate.OnAttribute.rereads {clock : Clock} {p : Predicate}
    (h : p.OnAttribute stack clock) (hwritable : p.isWritable = true) : p.Rereads stack := by
  obtain @⟨selector, op, value, operand, hselector, hop, hvalue⟩ := h
  have hoperand : ∀ m, operand ≠ .document m := by
    rintro m rfl
    -- only selectors of documents have conditions on documents
    have htyped := wellTyped_of_checkValue (selector_ne_document selector hselector) hop hvalue
    cases htyped
    exact selector_ne_document _ hselector _ rfl
  have htext : Predicate.text ⟨selector, some op, operand⟩ =
      selector.id ++ " " ++ op.spelling ++ " " ++ operand.render := by
    cases operand with
    | document m => exact absurd rfl (hoperand m)
    | _ => rfl
  obtain ⟨c, s, hid, hc, hcolon⟩ := exists_id selector
  refine .of_comparison htext ?_ (spells_of_isPlain (isPlain_id selector)) (keywordOf?_id selector)
    (spells_of_isPlain (isPlain_spelling op)) (keywordOf?_spelling op) (spells_render operand) ?_
  · rw [hid]
    simpa using hc
  · intro clock' position place stop
    obtain ⟨value', hsome, hvalue'⟩ := rechecks_checkValue clock' hvalue hwritable stop
    refine ⟨value', hsome, ?_⟩
    rw [← hid] at hcolon
    simp only [checkPredicate, List.contains_eq_mem, hcolon, decide_false, Bool.false_eq_true,
      if_false, lookup_id hselector]
    exact bind_eq_ok.2 ⟨op, checkOperator_spelling hop place value' selector.id,
      bind_eq_ok.2 ⟨operand.reread, hvalue', rfl⟩⟩

/-- A lone word that is not about documents is a comparison of the kind, the name or the path. -/
theorem onAttribute_of_checkWord {raw : RawPredicate} {p : Predicate}
    (hcolon : raw.selector.toList.contains ':' = false) (h : checkWord stack raw = .ok p)
    (clock : Clock) : p.OnAttribute stack clock := by
  rw [checkWord] at h
  dsimp only at h
  rw [hcolon, if_neg Bool.false_ne_true] at h
  split at h
  · next t _ =>
    cases h
    have hvalue : checkValue stack clock .type .eq ⟨t.name, 0, .bare⟩ = .ok (.fileType t) :=
      bind_eq_ok.2 ⟨(), rfl, bind_eq_ok.2 ⟨t, checkFileType_name t, rfl⟩⟩
    exact .intro (by decide) (by decide) hvalue
  · split at h
    · cases h
      -- a name or a path with wildcards is a pattern, whose check never fails
      have hvalue : ∀ selector : Selector, selector.family = .string →
          checkValue stack clock selector .glob ⟨raw.selector, 0, .bare⟩ =
            .ok (.pattern (Pattern.ofGlob raw.selector)) := by
        intro selector hfamily
        rw [checkValue, hfamily]
        rfl
      split
      · exact .intro (by decide) (by decide) (hvalue .path rfl)
      · exact .intro (by decide) (by decide) (hvalue .name rfl)
    · cases h

/-! ## 3. Documents -/

theorem checkPath_text {path : Document.Path} (h : ∀ segment ∈ path, segment.IsReadable)
    (raw : RawPredicate) (front : String) : checkPath raw front path.text = .ok path := by
  rw [checkPath, Document.read_text h]

theorem isReadable_of_checkPath {raw : RawPredicate} {front text : String} {path : Document.Path}
    (h : checkPath raw front text = .ok path) : ∀ segment ∈ path, segment.IsReadable := by
  unfold checkPath at h
  split at h
  · next hread =>
    cases h
    exact Document.isReadable_of_read hread
  · cases h
  · cases h

/-- The check of a predicate whose selector is that of a condition comes to its comparison. -/
theorem checkPredicate_selectorText {m : Document.Matcher} (h : ∀ segment ∈ m.path, segment.IsReadable)
    (clock : Clock) (position : Nat) (comparison : Option RawComparison) :
    checkPredicate stack clock ⟨m.selectorText, position, comparison⟩ =
      match comparison with
      | none => .ok ⟨.document m.format, none, .document ⟨m.format, m.path, .exists⟩⟩
      | some c => checkComparison stack m.format.name m.format m.path c := by
  have hcolon : m.selectorText.toList.contains ':' = true := by
    simp [toList_selectorText]
  have hdocument : checkPredicate stack clock ⟨m.selectorText, position, comparison⟩ =
      checkDocument stack ⟨m.selectorText, position, comparison⟩ := by
    cases comparison with
    | none => exact if_pos hcolon
    | some c => exact if_pos hcolon
  rw [hdocument, checkDocument]
  simp only [splitColon_selectorText, checkFormat, lookup_format, checkPath_text h]
  rfl

theorem head?_selectorText (m : Document.Matcher) : m.selectorText.toList.head? ≠ some '=' := by
  obtain ⟨c, s, hname, -, hc, -⟩ := exists_formatName m.format
  rw [toList_selectorText, hname]
  simpa using hc

theorem rereads_of_checkDocument {raw : RawPredicate} {p : Predicate}
    (hword : ∀ c, raw.comparison = some c → c.value.form = .bare →
      Spells c.value.text.toList (.word c.value.text))
    (h : checkDocument stack raw = .ok p) : p.Rereads stack := by
  obtain ⟨format, -, h⟩ := bind_eq_ok.1 h
  obtain ⟨path, hpath, h⟩ := bind_eq_ok.1 h
  have hreadable := isReadable_of_checkPath hpath
  have hkeyword : ∀ m : Document.Matcher, keywordOf? m.selectorText = none := fun m =>
    keywordOf?_of_colon (by simp [toList_selectorText])
  split at h
  · cases h
    exact .of_word rfl (head?_selectorText _) (spells_selectorText _) (hkeyword _)
      fun clock position => checkPredicate_selectorText hreadable clock position none
  · next c hc =>
    -- the format and the path are read back from the word, the value from its token
    obtain ⟨op, m, hop, hm, rfl⟩ := checkComparison_ok.1 h
    obtain ⟨rfl, rfl, hoperator, text, l, htext, hspells, hagain⟩ :=
      exists_recheckCondition (hword c hc) hm
    have hwhole : Predicate.text ⟨.document m.format, some op, .document m⟩ =
        m.selectorText ++ " " ++ op.spelling ++ " " ++ text := by
      simp only [Predicate.text, hoperator, htext]
    refine .of_comparison hwhole (head?_selectorText m) (spells_selectorText m) (hkeyword m)
      (spells_of_isPlain (isPlain_spelling op)) (keywordOf?_spelling op) hspells
      fun clock position place stop => ?_
    obtain ⟨value, hsome, hcheck⟩ := hagain stop
    refine ⟨value, hsome, ?_⟩
    rw [checkPredicate_selectorText hreadable]
    exact checkComparison_ok.2
      ⟨op, m, checkOperator_spelling (mem_operatorTable hop) place value _, hcheck, rfl⟩

/-! ## 4. Predicates -/

/-- What was read from a query is read back from its canonical text, whatever the clock says then. -/
theorem rereads_of_checkPredicate {clock : Clock} {raw : RawPredicate} {p : Predicate}
    (hword : ∀ c, raw.comparison = some c → c.value.form = .bare →
      Spells c.value.text.toList (.word c.value.text))
    (h : checkPredicate stack clock raw = .ok p) (hwritable : p.isWritable = true) :
    p.Rereads stack := by
  unfold checkPredicate at h
  split at h
  · by_cases hcolon : raw.selector.toList.contains ':'
    · rw [checkWord] at h
      dsimp only at h
      rw [if_pos hcolon] at h
      exact rereads_of_checkDocument hword h
    · exact (onAttribute_of_checkWord (by simpa using hcolon) h clock).rereads hwritable
  · split at h
    · exact rereads_of_checkDocument hword h
    · split at h
      · cases h
      · next selector hselector =>
        obtain ⟨op, hop, h⟩ := bind_eq_ok.1 h
        obtain ⟨operand, hoperand, h⟩ := bind_eq_ok.1 h
        cases h
        have hon : Predicate.OnAttribute stack clock ⟨selector, some op, operand⟩ :=
          .intro (mem_of_lookup hselector) (mem_operatorTable hop) hoperand
        exact hon.rereads hwritable

end FileQuery.Query
